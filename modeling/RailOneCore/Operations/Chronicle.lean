import RailOneCore.Operations.Runs

/-!
# Every version of a submission has its event

The outbox is transactional: a submission at version `v` has `v` events, one for each of its
versions, and the event of version `k` describes the record that the submission was at version `k`.
The records of a submission are read off the run (`recordsOf`); their states are `PREPARED`, then
`DISPATCHING` one or more times, then at most one final state.
-/

namespace RailOne

open Concurrent Ordered

/-- The records that the submission of an RTT has gone through, in the run with these events. -/
def recordsOf (l : List (System.Event Call Op World)) (rttId : String) :
    List ProviderSubmissionRecord :=
  l.filterMap fun e =>
    if e.after.operations.submissionsByRtt.get? rttId =
      e.before.operations.submissionsByRtt.get? rttId then none
    else e.after.operations.submissionsByRtt.get? rttId

/-- The signed event describes the record: by its type, and by what its data say about the outcome.
A field that the data do not have counts as null. -/
structure OutboxEvent.Describes (e : OutboxEvent) (s : ProviderSubmissionRecord) : Prop where
  eventType : e.eventType = s.state.eventType
  aggregateId : e.aggregateId = s.submissionId
  signedType : e.signedEvent.payload.get "event_type" = some (.str s.state.eventType)
  signedAggregate : e.signedEvent.payload.get "aggregate_id" = some (.str s.submissionId)
  version : e.signedEvent.payload.get "submission_version" = some (.int s.version)
  outcome : ∃ data : Fields, e.signedEvent.payload.get "data" = some (.obj data) ∧
    (data.get "code").getD .null = .ofOption s.normalizedCode ∧
    (data.get "external_reference").getD .null = .ofOption s.externalReference ∧
    (data.get "rejection_disposition").getD .null =
      .ofOption (s.rejectionDisposition.map RejectionDisposition.value)

/-- The type of an event determines the state that it announces. -/
theorem ProviderSubmissionState.eventType_injective :
    Function.Injective ProviderSubmissionState.eventType := by
  intro a b h
  cases a <;> cases b <;> first | rfl | exact absurd h (by decide)

/-- What an event announces, it describes. -/
theorem OutboxEvent.Announces.describes {rt : Runtime} {e : OutboxEvent}
    {s : ProviderSubmissionRecord} {idempotent : Bool} {at_ : Instant}
    (h : e.Announces rt s idempotent at_) (hs : s.Shape) : e.Describes s := by
  refine ⟨h.eventType, h.aggregateId, ?_, ?_, ?_, s.eventData idempotent, ?_, ?_⟩
  · simp [h.payload, Fields.get, ProviderSubmissionRecord.eventCore, List.lookup]
  · simp [h.payload, Fields.get, ProviderSubmissionRecord.eventCore, List.lookup]
  · simp [h.payload, Fields.get, ProviderSubmissionRecord.eventCore, List.lookup]
  · simp [h.payload, Fields.get, ProviderSubmissionRecord.eventCore, List.lookup]
  · -- before the outcome there is none, and the data of a completed submission carry it
    cases hstate : s.state with
    | prepared | dispatching =>
      obtain ⟨hcode, href, hdisp⟩ := hs.noOutcome (by rw [hstate]; rfl)
      simp [ProviderSubmissionRecord.eventData, hstate, hcode, href, hdisp, Fields.get, List.lookup,
        Json.ofOption]
    | accepted | rejected | unknown =>
      simp [ProviderSubmissionRecord.eventData, hstate, ProviderSubmissionRecord.outcomeData,
        Fields.get, List.lookup]

/-! ## The life of one submission -/

/-- Records of one submission, in the order of their versions, from its preparation on. -/
inductive Life : List ProviderSubmissionRecord → Prop
  | prepared {s : ProviderSubmissionRecord} (hstate : s.state = .prepared)
      (hversion : s.version = 1) : Life [s]
  | moved {l : List ProviderSubmissionRecord} {s t : ProviderSubmissionRecord}
      (h : Life (l ++ [s])) (hmove : SubmissionMove s.state t.state)
      (hversion : t.version = s.version + 1) : Life (l ++ [s] ++ [t])

namespace Life

variable {l : List ProviderSubmissionRecord}

theorem ne_nil (h : Life l) : l ≠ [] := by
  cases h <;> simp

/-- The versions are 1, 2, 3 and so on. -/
theorem versions (h : Life l) : l.map (·.version) = List.range' 1 l.length := by
  induction h with
  | prepared hstate hversion => simp [hversion]
  | @moved l s t h hmove hversion ih =>
    have hlast : s.version = l.length + 1 := by
      rw [List.map_append, List.length_append, List.length_singleton, List.range'_1_concat] at ih
      have hs := (List.append_inj' ih rfl).2
      simp only [List.map_cons, List.map_nil, List.cons.injEq, and_true] at hs
      omega
    rw [List.map_append, ih]
    simp only [List.map_cons, List.map_nil, List.length_append, List.length_singleton, hversion,
      hlast, Nat.add_comm 1, List.range'_1_concat]

/-- The states are `PREPARED`, then `DISPATCHING` some times, then at most one final state. -/
theorem states (h : Life l) : ∃ n final, final.length ≤ 1 ∧ (final ≠ [] → 1 ≤ n) ∧
    (∀ state ∈ final, state.isFinal = true) ∧
    l.map (·.state) = .prepared :: (List.replicate n .dispatching ++ final) := by
  induction h with
  | prepared hstate hversion => exact ⟨0, [], by simp, by simp, by simp, by simp [hstate]⟩
  | @moved l s t h hmove hversion ih =>
    obtain ⟨n, final, hlen, hn, hfinal, hstates⟩ := ih
    -- a submission that moves is not final, so that no final state has been reached
    have hlast : (ProviderSubmissionState.prepared ::
        (List.replicate n .dispatching ++ final)).getLast? = some s.state := by
      rw [← hstates]
      simp
    have hnil : final = [] := by
      rcases List.eq_nil_or_concat' final with hnil | ⟨init, state, rfl⟩
      · exact hnil
      · exfalso
        rw [← List.append_assoc, ← List.cons_append, List.getLast?_append_of_ne_nil _ (by simp)]
          at hlast
        simp only [List.getLast?_singleton, Option.some.injEq] at hlast
        have hs := hfinal state (by simp)
        rw [hlast, hmove.not_final] at hs
        cases hs
    subst hnil
    rw [List.append_nil] at hstates hlast
    rw [List.map_append, hstates]
    generalize hstate : s.state = a at hmove hlast
    generalize hstate' : t.state = b at hmove
    cases hmove with
    | dispatch ha =>
      refine ⟨n + 1, [], by simp, by simp, by simp, ?_⟩
      simp [hstate', List.replicate_succ']
    | complete hb =>
      refine ⟨n, [b], by simp, fun _ => ?_, by simpa using hb, by simp [hstate']⟩
      cases n with
      | zero => simp at hlast
      | succ n => exact Nat.succ_pos n

end Life

/-! ## The chronicle of a store -/

namespace OperationsStore

/-- Every event belongs to a stored submission. -/
def Owned (st : OperationsStore) : Prop :=
  ∀ e ∈ st.events, ∃ r s, st.submissionsByRtt.get? r = some s ∧ e.aggregateId = s.submissionId

/-- The records `l` are those that the submission of the RTT has gone through, and the events of the
submission describe them one by one. -/
structure Chronicle (st : OperationsStore) (rttId : String) (l : List ProviderSubmissionRecord) :
    Prop where
  last : l.getLast? = st.submissionsByRtt.get? rttId
  life : l ≠ [] → Life l
  events : ∀ s, st.submissionsByRtt.get? rttId = some s →
    List.Forall₂ OutboxEvent.Describes (st.eventsOf s.submissionId) l

/-- Different submissions have different identifiers. -/
theorem Consistent.eq_of_submissionId {d : Deployment} {st : OperationsStore}
    (hcf : CollisionFree d.rt) (h : st.Consistent d) {r r' : String}
    {s s' : ProviderSubmissionRecord} (hs : st.submissionsByRtt.get? r = some s)
    (hid : ProviderSubmissionCoordinator.submissionIdOf d s'.rttId s'.requestSha256 =
      .ok s'.submissionId) (hkey : s'.rttId = r')
    (heq : s.submissionId = s'.submissionId) : r = r' := by
  have hget := d.rt.get_of_contentId_eq hcf (by simp) (by simp) (h.submissionId hs) (heq ▸ hid)
    "rtt_id"
  rw [← h.key hs, ← hkey]
  simpa [Fields.get, List.lookup, CanonicalJson.sortKeys] using hget

end OperationsStore

namespace SubmissionEffect

variable {d : Deployment} {st st' : OperationsStore}

/-- The events of a submission, once an event has been added. -/
theorem eventsOf_set {row : OutboxRecord} (hrow : st.outbox.get? row.eventId = none)
    (subs : Dict String ProviderSubmissionRecord) (keys : Dict String String)
    (submissionId : String) :
    OperationsStore.eventsOf ⟨subs, keys, st.outbox.set row.eventId row⟩ submissionId =
      st.eventsOf submissionId ++ if row.event.aggregateId = submissionId then [row.event] else [] := by
  unfold OperationsStore.eventsOf
  rw [events_set hrow, List.filter_append]
  split_ifs with heq <;> simp [heq]

/-- Effects keep events with their submissions. -/
theorem owned (h : SubmissionEffect d st st') (hst : st.Owned) : st'.Owned := by
  have hev := h.evolves
  have hkeep : ∀ e ∈ st.events, ∃ r s, st'.submissionsByRtt.get? r = some s ∧
      e.aggregateId = s.submissionId := by
    intro e he
    obtain ⟨r, s, hs, hid⟩ := hst e he
    obtain ⟨t, ht, hsame, -⟩ := hev.submission hs
    exact ⟨r, t, ht, hid.trans hsame.submissionId.symm⟩
  intro e he
  cases h with
  | unchanged => exact hst e he
  | relayed outbox hkeys => exact hkeep e (events_relayed hkeys ▸ he)
  | prepared s row at_ hfresh hkey hrow hstate hshape hid hannounces =>
    rw [events_set hrow, List.mem_append, List.mem_singleton] at he
    rcases he with he | rfl
    · exact hkeep e he
    · exact ⟨s.rttId, s, Dict.get?_set_self _ _ _, hannounces.aggregateId⟩
  | moved s t row idempotent at_ hs hsame hversion hmove hshape hrow hannounces =>
    rw [events_set hrow, List.mem_append, List.mem_singleton] at he
    rcases he with he | rfl
    · exact hkeep e he
    · exact ⟨t.rttId, t, Dict.get?_set_self _ _ _, hannounces.aggregateId⟩

/-- What an effect adds to the records of a submission. -/
def added (st st' : OperationsStore) (rttId : String) : List ProviderSubmissionRecord :=
  if st'.submissionsByRtt.get? rttId = st.submissionsByRtt.get? rttId then []
  else (st'.submissionsByRtt.get? rttId).toList

/-- A submission whose record and events stay as they are keeps its chronicle. -/
theorem chronicle_same {rttId : String} {l : List ProviderSubmissionRecord}
    (hget : st'.submissionsByRtt.get? rttId = st.submissionsByRtt.get? rttId)
    (hevents : ∀ s, st.submissionsByRtt.get? rttId = some s →
      st'.eventsOf s.submissionId = st.eventsOf s.submissionId)
    (hl : st.Chronicle rttId l) : st'.Chronicle rttId (l ++ added st st' rttId) := by
  rw [added, if_pos hget, List.append_nil]
  refine ⟨hl.last.trans hget.symm, hl.life, fun s hs => ?_⟩
  rw [hget] at hs
  rw [hevents s hs]
  exact hl.events s hs

/-- Effects extend the chronicle of every submission. -/
theorem chronicle (hcf : CollisionFree d.rt) (h : SubmissionEffect d st st')
    (hcons : st.Consistent d) (howned : st.Owned) {rttId : String}
    {l : List ProviderSubmissionRecord} (hl : st.Chronicle rttId l) :
    st'.Chronicle rttId (l ++ added st st' rttId) := by
  have hcons' := h.consistent hcons
  cases h with
  | unchanged => exact chronicle_same rfl (fun _ _ => rfl) hl
  | relayed outbox hkeys =>
    refine chronicle_same rfl (fun s _ => ?_) hl
    rw [OperationsStore.eventsOf, OperationsStore.eventsOf, events_relayed hkeys]
  | prepared s row at_ hfresh hkey hrow hstate hshape hid hannounces =>
    have hevents := eventsOf_set hrow (st.submissionsByRtt.set s.rttId s)
      (st.rttByIdempotency.set s.idempotencyKey s.rttId)
    by_cases hr : rttId = s.rttId
    · subst hr
      have hnil : l = [] := List.getLast?_eq_none_iff.mp (hl.last.trans hfresh)
      have hget : (st.submissionsByRtt.set s.rttId s).get? s.rttId = some s :=
        Dict.get?_set_self _ _ _
      have hnone : st.eventsOf s.submissionId = [] := by
        refine List.filter_eq_nil_iff.mpr fun e he heq => ?_
        obtain ⟨r, t, ht, hagg⟩ := howned e he
        have hsub : t.submissionId = s.submissionId := hagg.symm.trans (by simpa using heq)
        have hrr := hcons.eq_of_submissionId hcf ht hid rfl hsub
        rw [hrr, hfresh] at ht
        cases ht
      rw [added, hget, hfresh, if_neg (by simp), hnil]
      refine ⟨hget.symm, fun _ => .prepared hstate (hshape.prepared hstate).1, fun t ht => ?_⟩
      rw [hget, Option.some.injEq] at ht
      subst ht
      rw [hevents, hnone, if_pos hannounces.aggregateId]
      exact .cons (hannounces.describes hshape) .nil
    · refine chronicle_same (Dict.get?_set_of_ne _ _ hr) (fun t ht => ?_) hl
      rw [hevents, if_neg, List.append_nil]
      intro heq
      exact hr (hcons.eq_of_submissionId hcf ht hid rfl (heq.symm.trans hannounces.aggregateId))
  | moved s t row idempotent at_ hs hsame hversion hmove hshape hrow hannounces =>
    have hevents := eventsOf_set hrow (st.submissionsByRtt.set t.rttId t) st.rttByIdempotency
    have hget : (st.submissionsByRtt.set t.rttId t).get? t.rttId = some t :=
      Dict.get?_set_self _ _ _
    by_cases hr : rttId = t.rttId
    · subst hr
      have hne : some t ≠ some s := by
        rw [ne_eq, Option.some.injEq]
        rintro rfl
        omega
      rw [added, hget, hs, if_neg hne]
      obtain ⟨init, rfl⟩ : ∃ init, l = init ++ [s] :=
        List.getLast?_eq_some_iff.mp (hl.last.trans hs)
      refine ⟨?_, fun _ => .moved (hl.life (by simp)) hmove hversion, fun u hu => ?_⟩
      · rw [hget]
        simp
      · rw [hget, Option.some.injEq] at hu
        subst hu
        rw [hevents, if_pos hannounces.aggregateId, hsame.submissionId]
        exact List.rel_append (hl.events s hs) (.cons (hannounces.describes hshape) .nil)
    · refine chronicle_same (Dict.get?_set_of_ne _ _ hr) (fun u hu => ?_) hl
      rw [hevents, if_neg, List.append_nil]
      intro heq
      exact hr (hcons.eq_of_submissionId hcf hu (hcons'.submissionId hget) rfl
        (heq.symm.trans hannounces.aggregateId))

end SubmissionEffect

/-! ## Runs -/

section Runs

variable {d : Deployment} {w₀ : World} {y : Config Op.Resp Call Exn Reply World}
  {l : List (System.Event Call Op World)}

theorem recordsOf_append (e : System.Event Call Op World) (rttId : String) :
    recordsOf (l ++ [e]) rttId =
      recordsOf l rttId ++ SubmissionEffect.added e.before.operations e.after.operations rttId := by
  unfold recordsOf SubmissionEffect.added
  rw [List.filterMap_append]
  split_ifs with heq
  · simp [heq]
  · cases hget : e.after.operations.submissionsByRtt.get? rttId with
    | none => simp [hget]
    | some s =>
      rw [hget] at heq
      simp [hget, heq]

/-- In every run, the chronicle of every submission is the list of its records. -/
theorem chronicle_of_trace (hcf : CollisionFree d.rt) (hops : w₀.operations = .empty)
    (hinvocations : w₀.invocations = []) (h : (system d).Trace ⟨w₀, []⟩ l y) :
    y.state.operations.Owned ∧
      ∀ rttId, y.state.operations.Chronicle rttId (recordsOf l rttId) := by
  induction h with
  | nil =>
    change w₀.operations.Owned ∧ ∀ rttId, w₀.operations.Chronicle rttId []
    rw [hops]
    exact ⟨nofun, fun _ => ⟨rfl, fun h => absurd rfl h, nofun⟩⟩
  | spawn _ c ih => exact ih
  | perform h hp ih =>
    obtain ⟨hcons, heff⟩ := Operations.effect_of_performs hops hinvocations
      ((system d).steps_of_trace h) hp
    refine ⟨heff.owned ih.1, fun rttId => ?_⟩
    rw [recordsOf_append]
    exact heff.chronicle hcf hcons ih.1 (ih.2 rttId)

end Runs

/-- In every run: a stored submission at version `v` has `v` events, of the versions 1 to `v`, which
describe the records that it has gone through; its states are `PREPARED`, then `DISPATCHING` some
times, then at most one final state; and a store call that raises changes nothing. -/
theorem outbox_in_step {d : Deployment} (hcf : CollisionFree d.rt) {w₀ : World}
    (hops : w₀.operations = .empty) (hinvocations : w₀.invocations = [])
    {l : List (System.Event Call Op World)} {y : Config Op.Resp Call Exn Reply World}
    (h : (system d).Trace ⟨w₀, []⟩ l y) :
    (∀ rttId s, y.state.operations.submissionsByRtt.get? rttId = some s →
      (recordsOf l rttId).getLast? = some s ∧
      (y.state.operations.eventsOf s.submissionId).length = s.version ∧
      (recordsOf l rttId).map (·.version) = List.range' 1 s.version ∧
      List.Forall₂ OutboxEvent.Describes (y.state.operations.eventsOf s.submissionId)
        (recordsOf l rttId) ∧
      ∃ n final, final.length ≤ 1 ∧ (final ≠ [] → 1 ≤ n) ∧
        (∀ state ∈ final, state.isFinal = true) ∧
        (recordsOf l rttId).map (·.state) =
          .prepared :: (List.replicate n .dispatching ++ final)) ∧
    (∀ s row w w' exn, World.sem d.rt (.prepareSubmission s row) w (.error exn) w' →
      w'.operations = w.operations) ∧
    ∀ v s row w w' exn, World.sem d.rt (.transitionSubmission v s row) w (.error exn) w' →
      w'.operations = w.operations := by
  refine ⟨fun rttId s hs => ?_, fun s row w w' exn hsem => ?_, fun v s row w w' exn hsem => ?_⟩
  · have hchron := (chronicle_of_trace hcf hops hinvocations h).2 rttId
    have hlast : (recordsOf l rttId).getLast? = some s := hchron.last.trans hs
    have hlife : Life (recordsOf l rttId) := hchron.life (by rintro hnil; simp [hnil] at hlast)
    have hevents := hchron.events s hs
    have hversion : s.version = (recordsOf l rttId).length := by
      obtain ⟨init, hinit⟩ := List.getLast?_eq_some_iff.mp hlast
      have hversions := congrArg List.getLast? hlife.versions
      rw [hinit] at hversions ⊢
      simpa [List.range'_1_concat, Nat.add_comm] using hversions
    refine ⟨hlast, hevents.length_eq.trans hversion.symm, ?_, hevents, hlife.states⟩
    rw [hversion]
    exact hlife.versions
  · rcases Commits.cases (sem_prepareSubmission.mp hsem) with ⟨_, _, -, heq, -⟩ | ⟨_, -, -, rfl⟩
    · cases heq
    · rfl
  · rcases Commits.cases (sem_transitionSubmission.mp hsem) with ⟨_, _, -, heq, -⟩ | ⟨_, -, -, rfl⟩
    · cases heq
    · rfl

/-- In the sample, three workers and a crash leave as many events as the submission has versions. -/
theorem outbox_in_step_sample :
    ∃ l, (system Sample.exactDeployment).Trace ⟨Sample.inFlightWorld Sample.exactRuntime, []⟩ l
        (Sample.execute Sample.exactDeployment (Sample.inFlightWorld Sample.exactRuntime) Sample.takeover) ∧
      ∀ s, (Sample.execute Sample.exactDeployment (Sample.inFlightWorld Sample.exactRuntime)
          Sample.takeover).state.operations.submissionsByRtt.get? "RTT-1" = some s →
        (recordsOf l "RTT-1").getLast? = some s := by
  have hl := Sample.trace_execute Sample.exactDeployment (Sample.inFlightWorld Sample.exactRuntime)
    Sample.takeover
  exact ⟨_, hl, fun s hs =>
    ((outbox_in_step Sample.collisionFree_exactRuntime rfl rfl hl).1 "RTT-1" s hs).1⟩

end RailOne
