import RailOneCore.Library.Dict
import RailOneCore.Sandbox.Models

/-!
# The store of simulated effects

`InMemorySandboxEffectStore` keeps the clock and the effects.  Claiming advances the clock, so a claim of
one worker may end the leases of others.

Seen as a queue, every operation of the store moves it as a leased work queue may be moved.
-/

namespace RailOne

open Ordered

/-- `InMemorySandboxEffectStore`. -/
structure InMemorySandboxEffectStore where
  tick : Int
  records : Dict String ProviderEffectRecord

namespace InMemorySandboxEffectStore

/-- The store without effects. -/
def empty : InMemorySandboxEffectStore := ⟨0, .empty⟩

/-- `schedule`. -/
def schedule (st : InMemorySandboxEffectStore) (record : ProviderEffectRecord) :
    Except Exn (ProviderEffectRecord × InMemorySandboxEffectStore) :=
  match st.records.get? record.effect.effectId with
  | some existing =>
    if existing.effect ≠ record.effect then
      .error ⟨.runtimeError, "sandbox effect identifier collision"⟩
    else .ok (existing, st)
  | none => .ok (record, { st with records := st.records.set record.effect.effectId record })

/-- The records that may be claimed at a tick: pending and available, or in flight with an expired
lease. -/
def eligible (tick : Int) (record : ProviderEffectRecord) : Bool :=
  (record.state == .pending && record.availableTick ≤ tick) ||
    (record.state == .inFlight &&
      match record.leaseUntilTick with
      | some until_ => decide (until_ ≤ tick)
      | none => false)

/-- The sort key `(available_tick, effect_id)`. -/
def claimedBefore (a b : ProviderEffectRecord) : Prop :=
  a.availableTick < b.availableTick ∨
    (a.availableTick = b.availableTick ∧ a.effect.effectId ≤ b.effect.effectId)

instance : DecidableRel claimedBefore := fun a b =>
  inferInstanceAs (Decidable (a.availableTick < b.availableTick ∨
    (a.availableTick = b.availableTick ∧ a.effect.effectId ≤ b.effect.effectId)))

/-- A record that `workerId` has claimed at `tick`. -/
def claimed (workerId : String) (tick leaseTicks : Int) (record : ProviderEffectRecord) :
    ProviderEffectRecord :=
  { record with
    state := .inFlight
    deliveryAttempts := record.deliveryAttempts + 1
    leaseOwner := some workerId
    leaseUntilTick := some (tick + leaseTicks)
    version := record.version + 1 }

/-- `_claim_policy`. -/
def claimPolicy (workerId : String) (ticks leaseTicks limit : Int) : Except Exn Unit :=
  if strip workerId = "" then .error ⟨.valueError, "sandbox worker_id is required"⟩
  else if ¬ (1 ≤ ticks ∧ ticks ≤ 1000) then .error ⟨.valueError, "ticks is outside policy"⟩
  else if ¬ (1 ≤ leaseTicks ∧ leaseTicks ≤ 1000) then
    .error ⟨.valueError, "lease_ticks is outside policy"⟩
  else if ¬ (1 ≤ limit ∧ limit ≤ 1000) then .error ⟨.valueError, "limit is outside policy"⟩
  else .ok ()

/-- `advance_and_claim`. -/
def advanceAndClaim (st : InMemorySandboxEffectStore) (workerId : String)
    (ticks leaseTicks limit : Int) :
    Except Exn (List ProviderEffectRecord × InMemorySandboxEffectStore) := do
  claimPolicy workerId ticks leaseTicks limit
  let tick := st.tick + ticks
  let due := (st.records.values.filter (eligible tick)).insertionSort claimedBefore
  let rows := due.take limit.toNat
  return (rows.map (claimed workerId tick leaseTicks),
    ⟨tick, st.records.rewrite (fun record => record.effect.effectId)
      (claimed workerId tick leaseTicks) rows⟩)

/-- `_require_owned`. -/
def requireOwned (st : InMemorySandboxEffectStore) (effectId workerId : String) :
    Except Exn ProviderEffectRecord :=
  match st.records.get? effectId with
  | none => .error ⟨.lookupError, "sandbox effect was not found"⟩
  | some record =>
    if record.state ≠ .inFlight ∨ record.leaseOwner ≠ some workerId then
      .error ⟨.permissionError, "worker does not own the sandbox effect lease"⟩
    else .ok record

/-- `mark_delivered`. -/
def markDelivered (st : InMemorySandboxEffectStore) (effectId workerId : String) :
    Except Exn (ProviderEffectRecord × InMemorySandboxEffectStore) := do
  let record ← st.requireOwned effectId workerId
  let updated : ProviderEffectRecord :=
    { record with
      state := .delivered
      leaseOwner := none
      leaseUntilTick := none
      lastError := none
      deliveredAtTick := some st.tick
      version := record.version + 1 }
  return (updated, { st with records := st.records.set effectId updated })

/-- `reschedule`. -/
def reschedule (st : InMemorySandboxEffectStore) (effectId workerId : String) (delayTicks : Int)
    (error : String) (maxAttempts : Int) :
    Except Exn (ProviderEffectRecord × InMemorySandboxEffectStore) :=
  if strip error = "" ∨ ¬ (1 ≤ delayTicks ∧ delayTicks ≤ 100) ∨ ¬ (1 ≤ maxAttempts ∧ maxAttempts ≤ 100)
  then .error ⟨.valueError, "sandbox effect retry policy is invalid"⟩
  else do
    let record ← st.requireOwned effectId workerId
    let terminal := maxAttempts ≤ record.deliveryAttempts
    let updated : ProviderEffectRecord :=
      { record with
        availableTick := if terminal then record.availableTick else st.tick + delayTicks
        state := if terminal then .deadLetter else .pending
        leaseOwner := none
        leaseUntilTick := none
        lastError := some (truncate error 1000)
        version := record.version + 1 }
    return (updated, { st with records := st.records.set effectId updated })

/-! ## What the operations find and do -/

variable {st st' : InMemorySandboxEffectStore} {record : ProviderEffectRecord}
  {effectId workerId : String}

/-- Records are stored under the identifiers of their effects. -/
def Keyed (st : InMemorySandboxEffectStore) : Prop :=
  ∀ k record, st.records.get? k = some record → record.effect.effectId = k

/-- A scheduled effect is stored: it was before, or it is new. -/
theorem schedule_eq_ok {stored : ProviderEffectRecord} (h : st.schedule record = .ok (stored, st')) :
    st' = st ∧ st.records.get? record.effect.effectId = some stored ∧ stored.effect = record.effect ∨
      stored = record ∧ st.records.get? record.effect.effectId = none ∧
        st' = { st with records := st.records.set record.effect.effectId record } := by
  unfold schedule at h
  split at h
  · next existing hget =>
    split_ifs at h with hne
    cases h
    exact .inl ⟨rfl, hget, not_not.mp hne⟩
  · next hnone =>
    cases h
    exact .inr ⟨rfl, hnone, rfl⟩

/-- An effect is refused only if another one is stored under its identifier. -/
theorem schedule_eq_error {exn : Exn} (h : st.schedule record = .error exn) :
    ∃ existing, st.records.get? record.effect.effectId = some existing ∧
      existing.effect ≠ record.effect := by
  unfold schedule at h
  split at h
  · next existing hget =>
    split_ifs at h with hne
    exact ⟨existing, hget, hne⟩
  · cases h

/-- The effect is stored. -/
def Stores (st : InMemorySandboxEffectStore) (effect : ScheduledProviderEffect) : Prop :=
  ∃ record, st.records.get? effect.effectId = some record ∧ record.effect = effect

variable {effect effect' : ScheduledProviderEffect}

/-- Scheduling a stored effect finds it. -/
theorem Stores.schedule (h : st.Stores effect) : ∃ stored, st.schedule (.scheduled effect) = .ok (stored, st) := by
  obtain ⟨record, hget, heffect⟩ := h
  refine ⟨record, ?_⟩
  unfold InMemorySandboxEffectStore.schedule
  simp [ProviderEffectRecord.scheduled, hget, heffect]

/-- Scheduling another effect under the identifier of a stored one fails. -/
theorem Stores.collision (h : st.Stores effect) (hid : effect'.effectId = effect.effectId)
    (hne : effect' ≠ effect) :
    st.schedule (.scheduled effect') = .error ⟨.runtimeError, "sandbox effect identifier collision"⟩ := by
  obtain ⟨record, hget, rfl⟩ := h
  unfold InMemorySandboxEffectStore.schedule
  simp [ProviderEffectRecord.scheduled, hid, hget, Ne.symm hne]

/-- What has been scheduled is stored, and what was stored is. -/
theorem stores_of_schedule {stored : ProviderEffectRecord}
    (h : st.schedule (.scheduled effect) = .ok (stored, st')) :
    st'.Stores effect ∧ st'.tick = st.tick ∧ ∀ e, st.Stores e → st'.Stores e := by
  rcases schedule_eq_ok h with ⟨rfl, hget, heffect⟩ | ⟨-, hnone, rfl⟩
  · exact ⟨⟨stored, hget, heffect⟩, rfl, fun _ he => he⟩
  · refine ⟨⟨_, Dict.get?_set_self _ _ _, rfl⟩, rfl, fun e ⟨record, hget, heffect⟩ => ⟨record, ?_, heffect⟩⟩
    refine (Dict.get?_set_of_ne _ _ fun hid => ?_).trans hget
    rw [← hid, hget] at hnone
    cases hnone

theorem claimPolicy_eq_ok {ticks leaseTicks limit : Int}
    (h : claimPolicy workerId ticks leaseTicks limit = .ok ()) : 1 ≤ ticks := by
  unfold claimPolicy at h
  split_ifs at h with _ hticks
  exact hticks.1

/-- A claim advances the clock, and rewrites stored records that are eligible then. -/
theorem advanceAndClaim_eq_ok {ticks leaseTicks limit : Int} {result : List ProviderEffectRecord}
    (hst : st.Keyed) (h : st.advanceAndClaim workerId ticks leaseTicks limit = .ok (result, st')) :
    ∃ rows, (∀ row ∈ rows, st.records.get? row.effect.effectId = some row ∧
        eligible (st.tick + ticks) row = true) ∧
      result = rows.map (claimed workerId (st.tick + ticks) leaseTicks) ∧ 1 ≤ ticks ∧
      st' = ⟨st.tick + ticks, st.records.rewrite (fun record => record.effect.effectId)
        (claimed workerId (st.tick + ticks) leaseTicks) rows⟩ := by
  simp only [advanceAndClaim, bind_eq_ok, pure_eq_ok, Prod.mk.injEq] at h
  obtain ⟨_, hpolicy, rfl, rfl⟩ := h
  refine ⟨_, fun row hrow => ?_, rfl, claimPolicy_eq_ok hpolicy, rfl⟩
  have hmem := List.mem_of_mem_take hrow
  rw [List.mem_insertionSort, List.mem_filter] at hmem
  obtain ⟨k, hk⟩ := Dict.mem_values.mp hmem.1
  exact ⟨(hst k row hk).symm ▸ hk, hmem.2⟩

section Claimed

variable {rows : List ProviderEffectRecord} (workerId : String) (tick leaseTicks : Int)

/-- What is claimed is stored as claimed. -/
theorem get?_claimed_of_mem
    (hrows : ∀ row ∈ rows, st.records.get? row.effect.effectId = some row) (hrow : record ∈ rows) :
    (st.records.rewrite (fun record => record.effect.effectId) (claimed workerId tick leaseTicks)
      rows).get? record.effect.effectId = some (claimed workerId tick leaseTicks record) := by
  refine Dict.get?_rewrite_of_mem (fun r hr r' hr' heq => ?_) hrow
  have hget := hrows r hr
  rw [show r.effect.effectId = r'.effect.effectId from heq, hrows r' hr', Option.some.injEq] at hget
  exact hget.symm

/-- What a claim makes of the stored records. -/
theorem get?_claimed (hrows : ∀ row ∈ rows, st.records.get? row.effect.effectId = some row)
    (k : String) :
    (∃ row ∈ rows, st.records.get? k = some row ∧
        (st.records.rewrite (fun record => record.effect.effectId) (claimed workerId tick leaseTicks)
          rows).get? k = some (claimed workerId tick leaseTicks row)) ∨
      (st.records.rewrite (fun record => record.effect.effectId) (claimed workerId tick leaseTicks)
        rows).get? k = st.records.get? k := by
  by_cases hk : ∃ row ∈ rows, row.effect.effectId = k
  · obtain ⟨row, hrow, rfl⟩ := hk
    exact .inl ⟨row, hrow, hrows row hrow, get?_claimed_of_mem workerId tick leaseTicks hrows hrow⟩
  · exact .inr (Dict.get?_rewrite_of_ne fun row hrow heq => hk ⟨row, hrow, heq⟩)

end Claimed

/-- A record that is owned is stored, in flight, under the worker's lease. -/
theorem requireOwned_eq_ok (h : st.requireOwned effectId workerId = .ok record) :
    st.records.get? effectId = some record ∧ record.state = .inFlight ∧
      record.leaseOwner = some workerId := by
  unfold requireOwned at h
  split at h
  · cases h
  · next hget =>
    split_ifs at h with hown
    cases h
    rw [not_or, not_not, not_not] at hown
    exact ⟨hget, hown⟩

/-- A worker that does not own a record can neither acknowledge nor reschedule it. -/
theorem refused_of_owner_ne (hget : st.records.get? effectId = some record)
    (howner : record.leaseOwner ≠ some workerId) :
    st.markDelivered effectId workerId =
        .error ⟨.permissionError, "worker does not own the sandbox effect lease"⟩ ∧
      ∀ delayTicks error maxAttempts,
        ∃ exn, st.reschedule effectId workerId delayTicks error maxAttempts = .error exn := by
  have hrefused : st.requireOwned effectId workerId =
      .error ⟨.permissionError, "worker does not own the sandbox effect lease"⟩ := by
    unfold requireOwned
    simp [hget, howner]
  refine ⟨?_, fun delayTicks error maxAttempts => ?_⟩
  · unfold markDelivered
    rw [hrefused]
    rfl
  · unfold reschedule
    split_ifs
    · exact ⟨_, rfl⟩
    · rw [hrefused]
      exact ⟨_, rfl⟩

/-! ## The store as a queue -/

/-- The records as entries of a queue. -/
def queue (st : InMemorySandboxEffectStore) :
    Leases.Queue String ScheduledProviderEffect String Int :=
  fun k => (st.records.get? k).map ProviderEffectRecord.entry

/-- The bookkeeping of the store, as that of a queue. -/
def Consistent (st : InMemorySandboxEffectStore) : Prop :=
  Leases.Consistent ScheduledProviderEffect.effectId ScheduledProviderEffect.dueTick st.tick st.queue

/-- The store is moved as a queue is. -/
abbrev QueueMoves (now : Int) (a : Leases.Act String String) (st st' : InMemorySandboxEffectStore) :
    Prop :=
  Leases.Moves ScheduledProviderEffect.effectId ScheduledProviderEffect.dueTick now a st.queue st'.queue

theorem queue_eq_some {k : String} {e : Leases.Entry ScheduledProviderEffect String Int} :
    st.queue k = some e ↔ ∃ record, st.records.get? k = some record ∧ record.entry = e := by
  simp [queue]

theorem Consistent.keyed (h : st.Consistent) : st.Keyed := fun k record hget =>
  (h k record.entry (queue_eq_some.mpr ⟨record, hget, rfl⟩)).2

/-- A stored effect stays stored, however the store is moved. -/
theorem Stores.of_moves {now : Int} {a : Leases.Act String String} (h : st.Stores effect)
    (hmoves : QueueMoves now a st st') : st'.Stores effect := by
  obtain ⟨record, hget, heffect⟩ := h
  obtain ⟨e, he, hmove⟩ := hmoves.moves _ _ (queue_eq_some.mpr ⟨record, hget, rfl⟩)
  obtain ⟨record', hget', rfl⟩ := queue_eq_some.mp he
  exact ⟨record', hget', hmove.item.trans heffect⟩

/-- A record that is eligible for a claim is an entry that is ready to be taken. -/
theorem ready_of_eligible {tick : Int} (h : eligible tick record = true) : record.entry.Ready tick := by
  simp only [eligible, Bool.or_eq_true, Bool.and_eq_true, beq_iff_eq, decide_eq_true_eq] at h
  rcases h with ⟨hstate, havailable⟩ | ⟨hstate, huntil⟩
  · exact .inl ⟨EffectDeliveryState.phase_eq_waiting.mpr hstate, havailable⟩
  · refine .inr ⟨EffectDeliveryState.phase_eq_inFlight.mpr hstate, ?_⟩
    cases hlease : record.leaseUntilTick with
    | none => simp [hlease] at huntil
    | some t => exact ⟨t, hlease, by simpa [hlease] using huntil⟩

section Moves

open Leases

variable {now : Int} {a : Act String String}

/-- Rewriting one record. -/
theorem moves_of_rewritten {k : String} {record' : ProviderEffectRecord}
    (hget : st.records.get? k = some record) (hmove : Move now a k record.entry record'.entry)
    (h : st'.records = st.records.set k record') :
    QueueMoves now a st st' := by
  refine ⟨fun k₁ e he => ?_, fun k₁ e hnone he => ?_⟩
  · by_cases hk : k₁ = k
    · subst hk
      obtain ⟨r, hr, rfl⟩ := queue_eq_some.mp he
      rw [hget, Option.some.injEq] at hr
      subst hr
      exact ⟨_, queue_eq_some.mpr ⟨record', by rw [h, Dict.get?_set_self], rfl⟩, hmove⟩
    · exact ⟨e, by rw [queue, h, Dict.get?_set_of_ne _ _ hk]; exact he, .stays⟩
  · have hk : k₁ ≠ k := by
      rintro rfl
      simp [queue, hget] at hnone
    rw [queue, h, Dict.get?_set_of_ne _ _ hk] at he
    rw [queue, he] at hnone
    cases hnone

/-- Scheduling an effect adds a fresh entry, if it adds one. -/
theorem moves_schedule {effect : ScheduledProviderEffect} {stored : ProviderEffectRecord}
    (h : st.schedule (.scheduled effect) = .ok (stored, st')) :
    QueueMoves now a st st' := by
  rcases schedule_eq_ok h with ⟨rfl, -⟩ | ⟨-, hnone, rfl⟩
  · exact .refl _ _ _ _ _
  · refine ⟨fun k e he => ⟨e, ?_, .stays⟩, fun k e hk he => ?_⟩
    · have hk : k ≠ effect.effectId := by
        rintro rfl
        obtain ⟨r, hr, -⟩ := queue_eq_some.mp he
        rw [show st.records.get? effect.effectId = none from hnone] at hr
        cases hr
      exact (congrArg _ (Dict.get?_set_of_ne _ _ hk)).trans he
    · obtain ⟨r, hr, rfl⟩ := queue_eq_some.mp he
      rw [Dict.get?_set] at hr
      split_ifs at hr with heq
      · cases hr
        exact ⟨ProviderEffectRecord.fresh_scheduled effect, heq.symm⟩
      · rw [queue, hr] at hk
        cases hk

/-- A claim takes entries that are ready. -/
theorem moves_advanceAndClaim {ticks leaseTicks limit : Int} {result : List ProviderEffectRecord}
    (hst : st.Keyed) (h : st.advanceAndClaim workerId ticks leaseTicks limit = .ok (result, st')) :
    QueueMoves st'.tick (.claim workerId) st st' := by
  obtain ⟨rows, hrows, -, -, rfl⟩ := advanceAndClaim_eq_ok hst h
  have hstored := fun row hrow => (hrows row hrow).1
  refine ⟨fun k e he => ?_, fun k e hnone he => ?_⟩
  · obtain ⟨r, hr, rfl⟩ := queue_eq_some.mp he
    rcases get?_claimed workerId (st.tick + ticks) leaseTicks hstored k with ⟨row, hrow, hrow', hnew⟩ | hsame
    · rw [hr, Option.some.injEq] at hrow'
      subst hrow'
      exact ⟨_, queue_eq_some.mpr ⟨_, hnew, rfl⟩,
        .claimed workerId _ rfl (ready_of_eligible (hrows r hrow).2)⟩
    · exact ⟨_, queue_eq_some.mpr ⟨r, hsame.trans hr, rfl⟩, .stays⟩
  · obtain ⟨r, hr, rfl⟩ := queue_eq_some.mp he
    rcases get?_claimed workerId (st.tick + ticks) leaseTicks hstored k with ⟨row, hrow, hrow', -⟩ | hsame
    · rw [queue, hrow'] at hnone
      cases hnone
    · rw [queue, ← hsame, hr] at hnone
      cases hnone

/-- A delivery is the acknowledgement of the owner. -/
theorem moves_markDelivered {updated : ProviderEffectRecord}
    (h : st.markDelivered effectId workerId = .ok (updated, st')) :
    QueueMoves st'.tick (.acknowledge effectId workerId) st st' := by
  simp only [markDelivered, bind_eq_ok, pure_eq_ok, Prod.mk.injEq] at h
  obtain ⟨record, hrecord, rfl, rfl⟩ := h
  obtain ⟨hget, hstate, howner⟩ := requireOwned_eq_ok hrecord
  exact moves_of_rewritten hget
    (.acknowledged workerId rfl (EffectDeliveryState.phase_eq_inFlight.mpr hstate) howner) rfl

/-- A failure is the release of the owner, to a later tick or for good. -/
theorem moves_reschedule {delayTicks maxAttempts : Int} {error : String}
    {updated : ProviderEffectRecord}
    (h : st.reschedule effectId workerId delayTicks error maxAttempts = .ok (updated, st')) :
    QueueMoves st'.tick (.release effectId workerId) st st' := by
  unfold reschedule at h
  split_ifs at h with hpolicy
  simp only [bind_eq_ok, pure_eq_ok, Prod.mk.injEq] at h
  obtain ⟨record, hrecord, rfl, rfl⟩ := h
  obtain ⟨hget, hstate, howner⟩ := requireOwned_eq_ok hrecord
  have hphase := EffectDeliveryState.phase_eq_inFlight.mpr hstate
  refine moves_of_rewritten hget ?_ rfl
  by_cases hterminal : maxAttempts ≤ record.deliveryAttempts
  · simp only [ProviderEffectRecord.entry, hterminal, if_true]
    exact .abandoned workerId rfl hphase howner
  · simp only [ProviderEffectRecord.entry, hterminal, if_false]
    exact .released workerId _ rfl hphase howner (by omega)

end Moves

end InMemorySandboxEffectStore

end RailOne
