import RailOneCore.Operations.Runs

/-!
# The delivery of events

Relay workers claim events under a lease, publish them, and acknowledge or reschedule them.  Workers
crash and leases expire, and other calls keep adding events.  `DeliveryMove` says what one step may do
to one row of the outbox; from it follow the guarantees of the relay over whole runs: no event is
lost or altered, leases belong to events in flight, nothing is marked as published that no publisher
has taken, finished rows do not change, a lost lease gives no right to an event, and every unfinished
event can be claimed again later.
-/

namespace RailOne

open Concurrent Ordered

/-! ## Rows -/

/-- The row is finished: published, or given up. -/
def OutboxRecord.finished (row : OutboxRecord) : Bool :=
  row.deliveryState == .published || row.deliveryState == .deadLetter

/-- A row that has not been claimed yet. -/
structure OutboxRecord.Fresh (row : OutboxRecord) : Prop where
  state : row.deliveryState = .pending
  owner : row.leaseOwner = none
  until_ : row.leaseUntil = none

/-- The bookkeeping of the row is sound: leases belong to events in flight, and a publisher has taken
what is marked as published. -/
structure OutboxRecord.Sound (row : OutboxRecord) (published : List (String × Json)) : Prop where
  owner : row.leaseOwner.isSome = true ↔ row.deliveryState = .inFlight
  until_ : row.leaseUntil.isSome = true ↔ row.deliveryState = .inFlight
  published : row.deliveryState = .published →
    (row.eventId, row.signedEvent.toDict) ∈ published

/-- What a step may do to a row. -/
inductive DeliveryMove (o : Op) (row : OutboxRecord) : OutboxRecord → Prop
  | stays : DeliveryMove o row row
  | claimed (workerId : String) (at_ : Instant) (leaseSeconds limit : Int)
      (ho : o = .claimOutbox workerId at_ leaseSeconds limit)
      (hclaimable : OperationsStore.claimable at_ row = true) :
      DeliveryMove o row (OperationsStore.claimed workerId at_ leaseSeconds row)
  | acknowledged (workerId : String) (at_ : Instant) (row' : OutboxRecord)
      (ho : o = .markPublished row.eventId workerId at_) (hstate : row.deliveryState = .inFlight)
      (howner : row.leaseOwner = some workerId) (hevent : row'.event = row.event)
      (hstate' : row'.deliveryState = .published) (howner' : row'.leaseOwner = none)
      (huntil' : row'.leaseUntil = none) : DeliveryMove o row row'
  | rescheduled (row' : OutboxRecord) (hstate : row.deliveryState = .inFlight)
      (hevent : row'.event = row.event)
      (hstate' : row'.deliveryState = .pending ∨ row'.deliveryState = .deadLetter)
      (howner' : row'.leaseOwner = none) (huntil' : row'.leaseUntil = none) :
      DeliveryMove o row row'

namespace DeliveryMove

variable {o : Op} {row row' : OutboxRecord}

/-- The event of a row stays. -/
theorem event (h : DeliveryMove o row row') : row'.event = row.event := by
  cases h with
  | stays => rfl
  | claimed => rfl
  | acknowledged _ _ _ _ _ _ hevent => exact hevent
  | rescheduled _ _ hevent => exact hevent

/-- Finished rows stay as they are. -/
theorem eq_of_finished (h : DeliveryMove o row row') (hrow : row.finished = true) : row' = row := by
  have hflight : row.deliveryState ≠ .inFlight := by
    intro hstate
    simp [OutboxRecord.finished, hstate] at hrow
  have hpending : row.deliveryState ≠ .pending := by
    intro hstate
    simp [OutboxRecord.finished, hstate] at hrow
  cases h with
  | stays => rfl
  | claimed _ _ _ _ _ hclaimable =>
    exfalso
    simp [OperationsStore.claimable, hflight, hpending] at hclaimable
  | acknowledged _ _ _ _ hstate => exact absurd hstate hflight
  | rescheduled _ hstate => exact absurd hstate hflight

/-- A row is sound after a step, if the step acknowledges only what a publisher has taken. -/
theorem sound {published published' : List (String × Json)} (h : DeliveryMove o row row')
    (hrow : row.Sound published) (hpublished : published ⊆ published')
    (hack : ∀ workerId at_, o = .markPublished row.eventId workerId at_ →
      (row.eventId, row.signedEvent.toDict) ∈ published') : row'.Sound published' := by
  cases h with
  | stays => exact ⟨hrow.owner, hrow.until_, fun h => hpublished (hrow.published h)⟩
  | claimed => exact ⟨by simp [OperationsStore.claimed], by simp [OperationsStore.claimed], nofun⟩
  | acknowledged workerId at_ _ ho _ _ hevent hstate' howner' huntil' =>
    refine ⟨by simp [howner', hstate'], by simp [huntil', hstate'], fun _ => ?_⟩
    have hid : row'.eventId = row.eventId := congrArg OutboxEvent.eventId hevent
    have hsigned : row'.signedEvent = row.signedEvent := congrArg OutboxEvent.signedEvent hevent
    rw [hid, hsigned]
    exact hack workerId at_ ho
  | rescheduled _ _ _ hstate' howner' huntil' =>
    rcases hstate' with hstate' | hstate' <;>
      exact ⟨by simp [howner', hstate'], by simp [huntil', hstate'], by simp [hstate']⟩

end DeliveryMove

/-- A sound row that is not finished can be claimed from some time on. -/
theorem OutboxRecord.Sound.claimable {row : OutboxRecord} {published : List (String × Json)}
    (h : row.Sound published) (hrow : row.finished = false) :
    ∃ due : Instant, ∀ at_, due ≤ at_ → OperationsStore.claimable at_ row = true := by
  cases hstate : row.deliveryState with
  | pending =>
    exact ⟨row.availableAt, fun at_ hat => by simp [OperationsStore.claimable, hstate, hat]⟩
  | inFlight =>
    obtain ⟨until_, huntil⟩ := Option.isSome_iff_exists.mp (h.until_.mpr hstate)
    exact ⟨until_, fun at_ hat => by simp [OperationsStore.claimable, hstate, huntil, hat]⟩
  | published | deadLetter => simp [OutboxRecord.finished, hstate] at hrow

/-! ## The store -/

namespace OperationsStore

/-- Rows are stored under the identifiers of their events. -/
def Keyed (st : OperationsStore) : Prop := ∀ k row, st.outbox.get? k = some row → row.eventId = k

/-- What claiming rows of the outbox makes of a stored row. -/
theorem get?_claimRows {workerId : String} {at_ : Instant} {leaseSeconds : Int}
    {rows : List OutboxRecord} {outbox outbox₀ : Dict String OutboxRecord}
    (hrows : ∀ row ∈ rows, outbox₀.get? row.eventId = some row ∧ claimable at_ row = true)
    {k : String} {row : OutboxRecord} (hrow : outbox₀.get? k = some row)
    (hnow : outbox.get? k = some row ∨
      outbox.get? k = some (claimed workerId at_ leaseSeconds row) ∧ claimable at_ row = true) :
    (claimRows workerId at_ leaseSeconds rows outbox).get? k = some row ∨
      (claimRows workerId at_ leaseSeconds rows outbox).get? k =
        some (claimed workerId at_ leaseSeconds row) ∧ claimable at_ row = true := by
  induction rows generalizing outbox with
  | nil => exact hnow
  | cons first rows ih =>
    refine ih (fun r hr => hrows r (List.mem_cons_of_mem _ hr)) ?_
    rw [Dict.get?_set]
    split_ifs with hk
    · obtain ⟨hfirst, hclaimable⟩ := hrows first List.mem_cons_self
      rw [← hk, hrow, Option.some.injEq] at hfirst
      rw [hfirst]
      exact .inr ⟨rfl, hclaimable⟩
    · exact hnow

theorem get?_claimRows_of_none {workerId : String} {at_ : Instant} {leaseSeconds : Int}
    {rows : List OutboxRecord} {outbox : Dict String OutboxRecord} {k : String}
    (hrows : ∀ row ∈ rows, row.eventId ≠ k) :
    (claimRows workerId at_ leaseSeconds rows outbox).get? k = outbox.get? k := by
  induction rows generalizing outbox with
  | nil => rfl
  | cons first rows ih =>
    unfold claimRows
    rw [ih fun r hr => hrows r (List.mem_cons_of_mem _ hr), Dict.get?_set_of_ne _ _
      (Ne.symm (hrows first List.mem_cons_self))]

/-- The rows that a claim selects are stored and claimable. -/
theorem claimOutbox_eq_ok {st st' : OperationsStore} {workerId : String} {at_ : Instant}
    {leaseSeconds limit : Int} {result : List OutboxRecord} (hst : st.Keyed)
    (h : st.claimOutbox workerId at_ leaseSeconds limit = .ok (result, st')) :
    ∃ rows, (∀ row ∈ rows, st.outbox.get? row.eventId = some row ∧ claimable at_ row = true) ∧
      result = rows.map (claimed workerId at_ leaseSeconds) ∧
      st' = { st with outbox := claimRows workerId at_ leaseSeconds rows st.outbox } := by
  unfold claimOutbox at h
  split_ifs at h
  cases h
  refine ⟨_, fun row hrow => ?_, rfl, rfl⟩
  have hmem := List.mem_of_mem_take hrow
  rw [List.mem_insertionSort, List.mem_filter] at hmem
  obtain ⟨k, hk⟩ := Dict.mem_values.mp hmem.1
  exact ⟨(hst k row hk).symm ▸ hk, hmem.2⟩

/-- A row that is owned is in flight under the worker's lease. -/
theorem owned_of_requireOwnedEvent {st : OperationsStore} {eventId workerId : String}
    {row : OutboxRecord} (h : st.requireOwnedEvent eventId workerId = .ok row) :
    row.deliveryState = .inFlight ∧ row.leaseOwner = some workerId := by
  unfold requireOwnedEvent at h
  split at h
  · cases h
  · split_ifs at h with hown
    cases h
    rw [not_or, not_not, not_not] at hown
    exact hown

end OperationsStore

/-- The operation adds an event that has not been claimed, if it adds one. -/
def Op.addsFresh : Op → Prop
  | .prepareSubmission _ row | .transitionSubmission _ _ row => row.Fresh
  | _ => True

/-- What a step does to the outbox: it moves each of its rows, and the rows that it adds are fresh. -/
structure Delivers (o : Op) (st st' : OperationsStore) : Prop where
  moves : ∀ k row, st.outbox.get? k = some row →
    ∃ row', st'.outbox.get? k = some row' ∧ DeliveryMove o row row'
  adds : ∀ k row, st.outbox.get? k = none → st'.outbox.get? k = some row →
    row.Fresh ∧ row.eventId = k

namespace Delivers

variable {rt : Runtime} {o : Op} {w w' : World} {r : o.Resp} {st st' : OperationsStore}

theorem of_outbox_eq (h : st'.outbox = st.outbox) : Delivers o st st' := by
  refine ⟨fun k row hrow => ⟨row, by rw [h]; exact hrow, .stays⟩, fun k row hnone hrow => ?_⟩
  rw [h, hnone] at hrow
  cases hrow

/-- Adding a fresh event. -/
theorem of_added {row : OutboxRecord} (hrow : row.Fresh) (hnone : st.outbox.get? row.eventId = none)
    (h : st'.outbox = st.outbox.set row.eventId row) : Delivers o st st' := by
  refine ⟨fun k row' hk => ⟨row', ?_, .stays⟩, fun k row' hk hk' => ?_⟩
  · rw [h, Dict.get?_set, if_neg ?_]
    · exact hk
    · rintro rfl
      rw [hnone] at hk
      cases hk
  · rw [h, Dict.get?_set] at hk'
    split_ifs at hk' with heq
    · cases hk'
      exact ⟨hrow, heq.symm⟩
    · rw [hk] at hk'
      cases hk'

/-- Rewriting one row. -/
theorem of_rewritten {k : String} {row row' : OutboxRecord} (hrow : st.outbox.get? k = some row)
    (hmove : DeliveryMove o row row') (h : st'.outbox = st.outbox.set k row') :
    Delivers o st st' := by
  refine ⟨fun k₁ row₁ hk₁ => ?_, fun k₁ row₁ hk₁ hk₁' => ?_⟩
  · rw [h, Dict.get?_set]
    split_ifs with heq
    · subst heq
      rw [hrow, Option.some.injEq] at hk₁
      subst hk₁
      exact ⟨row', rfl, hmove⟩
    · exact ⟨row₁, hk₁, .stays⟩
  · rw [h, Dict.get?_set] at hk₁'
    split_ifs at hk₁' with heq
    · subst heq
      rw [hrow] at hk₁
      cases hk₁
    · rw [hk₁] at hk₁'
      cases hk₁'

theorem of_claimed {workerId : String} {at_ : Instant} {leaseSeconds limit : Int}
    {result : List OutboxRecord} (hst : st.Keyed)
    (ho : o = .claimOutbox workerId at_ leaseSeconds limit)
    (h : st.claimOutbox workerId at_ leaseSeconds limit = .ok (result, st')) :
    Delivers o st st' := by
  obtain ⟨rows, hrows, -, rfl⟩ := OperationsStore.claimOutbox_eq_ok hst h
  refine ⟨fun k row hrow => ?_, fun k row hnone hrow => ?_⟩
  · rcases OperationsStore.get?_claimRows hrows hrow (.inl hrow) with hget | ⟨hget, hclaimable⟩
    · exact ⟨row, hget, .stays⟩
    · exact ⟨_, hget, .claimed workerId at_ leaseSeconds limit ho hclaimable⟩
  · change (OperationsStore.claimRows workerId at_ leaseSeconds rows st.outbox).get? k = _ at hrow
    rw [OperationsStore.get?_claimRows_of_none, hnone] at hrow
    · cases hrow
    · rintro row' hrow' rfl
      rw [(hrows row' hrow').1] at hnone
      cases hnone

/-- Every operation delivers. -/
theorem of_sem (hst : w.operations.Keyed) (ho : o.addsFresh) (h : World.sem rt o w r w') :
    Delivers o w.operations w'.operations := by
  by_cases hpart : o.part = .operations
  · cases o <;> simp only [Op.part, reduceCtorEq] at hpart
    case prepareSubmission s row =>
      rcases Commits.cases (sem_prepareSubmission.mp h) with ⟨a, st, hst', -, rfl⟩ | ⟨_, -, -, rfl⟩
      · rcases OperationsStore.prepare_eq_ok hst' with ⟨rfl, -⟩ | ⟨-, -, -, hnone, rfl⟩
        · exact of_outbox_eq rfl
        · exact of_added ho hnone rfl
      · exact of_outbox_eq rfl
    case transitionSubmission v s row =>
      rcases Commits.cases (sem_transitionSubmission.mp h) with
        ⟨a, st, hst', -, rfl⟩ | ⟨_, -, -, rfl⟩
      · obtain ⟨-, -, hnone, rfl⟩ := OperationsStore.transition_eq_ok hst'
        exact of_added ho hnone rfl
      · exact of_outbox_eq rfl
    case claimOutbox workerId at_ leaseSeconds limit =>
      rcases Commits.cases (sem_claimOutbox.mp h) with ⟨a, st, hst', -, rfl⟩ | ⟨_, -, -, rfl⟩
      · exact of_claimed hst rfl hst'
      · exact of_outbox_eq rfl
    case markPublished eventId workerId at_ =>
      rcases Commits.cases (sem_markPublished.mp h) with ⟨a, st, hst', -, rfl⟩ | ⟨_, -, -, rfl⟩
      · simp only [OperationsStore.markPublished, bind_eq_ok, pure_eq_ok, Prod.mk.injEq] at hst'
        obtain ⟨row, hrow, -, rfl⟩ := hst'
        have hget := OperationsStore.requireOwnedEvent_eq_ok hrow
        obtain ⟨hstate, howner⟩ := OperationsStore.owned_of_requireOwnedEvent hrow
        refine of_rewritten hget ?_ rfl
        refine .acknowledged workerId at_ _ ?_ hstate howner rfl rfl rfl rfl
        rw [hst _ _ hget]
      · exact of_outbox_eq rfl
    case reschedule eventId workerId at_ availableAt error maxAttempts =>
      rcases Commits.cases (sem_reschedule.mp h) with ⟨a, st, hst', -, rfl⟩ | ⟨_, -, -, rfl⟩
      · unfold OperationsStore.reschedule at hst'
        split_ifs at hst'
        simp only [bind_eq_ok, pure_eq_ok, Prod.mk.injEq] at hst'
        obtain ⟨row, hrow, -, rfl⟩ := hst'
        obtain ⟨hstate, -⟩ := OperationsStore.owned_of_requireOwnedEvent hrow
        refine of_rewritten (OperationsStore.requireOwnedEvent_eq_ok hrow) ?_ rfl
        refine .rescheduled _ hstate rfl ?_ rfl rfl
        change (if _ then _ else _) = _ ∨ (if _ then _ else _) = _
        split_ifs
        · exact .inr rfl
        · exact .inl rfl
      · exact of_outbox_eq rfl
  · exact of_outbox_eq (congrArg OperationsStore.outbox ((World.frame_of_sem h).operations hpart))

/-- Rows stay under the identifiers of their events. -/
theorem keyed (h : Delivers o st st') (hst : st.Keyed) : st'.Keyed := by
  intro k row hrow
  cases hk : st.outbox.get? k with
  | none => exact (h.adds k row hk hrow).2
  | some old =>
    obtain ⟨row', hrow', hmove⟩ := h.moves k old hk
    rw [hrow, Option.some.injEq] at hrow'
    subst hrow'
    exact (congrArg OutboxEvent.eventId hmove.event).trans (hst k old hk)

end Delivers

/-! ## The protocol of the relay -/

namespace Delivery

/-- What the calls agree on about events: rows are sound, events persist, and what a publisher has
taken is not forgotten. -/
def protocol : Protocol World where
  Inv w := w.operations.Keyed ∧
    ∀ k row, w.operations.outbox.get? k = some row → row.Sound w.published
  Rely w w' := (∀ k row, w.operations.outbox.get? k = some row →
      ∃ row', w'.operations.outbox.get? k = some row' ∧ row'.event = row.event) ∧
    w.published ⊆ w'.published
  avail _ := 0
  rely_refl w := ⟨fun _ row hrow => ⟨row, hrow, rfl⟩, fun _ h => h⟩
  rely_trans w₁ w₂ w₃ h h' := by
    refine ⟨fun k row hrow => ?_, fun p hp => h'.2 (h.2 hp)⟩
    obtain ⟨row', hrow', hevent⟩ := h.1 k row hrow
    obtain ⟨row'', hrow'', hevent'⟩ := h'.1 k row' hrow'
    exact ⟨row'', hrow'', hevent'.trans hevent⟩

/-- What a step guarantees. -/
structure Guarantee (o : Op) (w w' : World) : Prop where
  delivers : Delivers o w.operations w'.operations
  published : w.published ⊆ w'.published

theorem rely_of_guarantee {o : Op} {w w' : World} (h : Guarantee o w w') : protocol.Rely w w' := by
  refine ⟨fun k row hrow => ?_, h.published⟩
  obtain ⟨row', hrow', hmove⟩ := h.delivers.moves k row hrow
  exact ⟨row', hrow', hmove.event⟩

variable {d : Deployment} {o : Op} {w w' : World} {r : o.Resp}

theorem published_of_sem (h : World.sem d.rt o w r w') : w.published ⊆ w'.published := by
  by_cases hpart : o.part = .published
  · cases o <;> simp only [Op.part, reduceCtorEq] at hpart
    case publish eventId event =>
      have hw : w' = w.taken eventId event r := h
      rw [hw]
      cases r with
      | ok _ => exact List.subset_append_left _ _
      | error _ => exact fun _ h => h
  · rw [(World.frame_of_sem h).published hpart]
    exact fun _ h => h

/-- A step keeps the protocol, if it adds only fresh events and acknowledges only what a publisher
has taken. -/
theorem step (hinv : protocol.Inv w) (ho : o.addsFresh)
    (hack : ∀ k workerId at_ row, o = .markPublished k workerId at_ →
      w.operations.outbox.get? k = some row → (k, row.signedEvent.toDict) ∈ w.published)
    (h : World.sem d.rt o w r w') : protocol.Inv w' ∧ Guarantee o w w' := by
  obtain ⟨hkeyed, hsound⟩ := hinv
  have hdelivers := Delivers.of_sem hkeyed ho h
  have hpublished := published_of_sem h
  refine ⟨⟨hdelivers.keyed hkeyed, fun k row hrow => ?_⟩, hdelivers, hpublished⟩
  cases hk : w.operations.outbox.get? k with
  | none =>
    obtain ⟨hfresh, -⟩ := hdelivers.adds k row hk hrow
    exact ⟨by simp [hfresh.owner, hfresh.state], by simp [hfresh.until_, hfresh.state],
      by simp [hfresh.state]⟩
  | some old =>
    obtain ⟨row', hrow', hmove⟩ := hdelivers.moves k old hk
    rw [hrow, Option.some.injEq] at hrow'
    subst hrow'
    have hid := hkeyed k old hk
    refine hmove.sound (hsound k old hk) hpublished fun workerId at_ heq => ?_
    rw [hid] at heq ⊢
    exact hpublished (hack k workerId at_ old heq hk)

/-- A program keeps the protocol. -/
def Respects (d : Deployment) {α : Type} (p : Code α) (w : World) : Prop :=
  Safe protocol (World.sem d.rt) Guarantee (fun n _ _ => n = 0) p 0 w

/-- The operation adds only fresh events and acknowledges none. -/
def calm : Op → Prop
  | .markPublished .. => False
  | o => o.addsFresh

theorem step_of_calm (hinv : protocol.Inv w) (ho : calm o) (h : World.sem d.rt o w r w') :
    protocol.Inv w' ∧ Guarantee o w w' := by
  refine step hinv ?_ (fun k workerId at_ row heq _ => ?_) h
  · cases o <;> first | exact ho | trivial
  · subst heq
    exact ho.elim

theorem respects_of_calm {α : Type} {p : Code α} (hp : p.Ops calm) : Respects d p w :=
  Safe.of_ops (A := calm) (fun _ _ _ _ ho hinv h =>
    ⟨(step_of_calm hinv ho h).1, (step_of_calm hinv ho h).2, rfl⟩) (fun _ _ => rfl) hp w

/-! ## The relay -/

/-- The row is known to be in the outbox. -/
def Known (row : OutboxRecord) (w : World) : Prop :=
  ∃ row', w.operations.outbox.get? row.eventId = some row' ∧ row'.event = row.event

theorem Known.rely {row : OutboxRecord} (h : Known row w) (hw : protocol.Rely w w') :
    Known row w' := by
  obtain ⟨row', hrow', hevent⟩ := h
  obtain ⟨row'', hrow'', hevent'⟩ := hw.1 _ row' hrow'
  exact ⟨row'', hrow'', hevent'.trans hevent⟩

/-- A step that neither adds stale events nor acknowledges, before the rest of a program. -/
theorem Respects.calm_bind {α : Type} {o : Op} {f : o.Resp → Code α} (ho : calm o)
    (hf : ∀ r w₁ w₂, protocol.Rely w w₁ → protocol.Inv w₁ → protocol.Inv w₂ →
      World.sem d.rt o w₁ r w₂ → Respects d (f r) w₂) : Respects d (.op o f) w := by
  refine safe_op.mpr fun w₁ hw₁ hinv _ r w₂ hs => ?_
  obtain ⟨hinv₂, hg⟩ := step_of_calm hinv ho hs
  exact ⟨hinv₂, hg, 0, rfl, hf r w₁ w₂ hw₁ hinv hinv₂ hs⟩

/-- Publishing a known row acknowledges it only if the publisher has taken it. -/
theorem respects_publishOne {relay : OutboxRelay} {instant : Instant} {row : OutboxRecord}
    (hrow : Known row w) : Respects d (relay.publishOne instant row) w := by
  unfold OutboxRelay.publishOne
  refine Respects.calm_bind (o := Op.publish _ _) trivial fun r w₁ w₂ hw₁ _ _ hs => ?_
  cases r with
  | error exn => exact respects_of_calm (ops_call.mpr trivial)
  | ok _ =>
    have hw₂ : w₂ = w₁.taken row.eventId row.signedEvent.toDict (.ok ()) := hs
    have hknown : Known row w₂ := by
      have hknown₁ : Known row w₁ := hrow.rely hw₁
      rw [hw₂]
      exact hknown₁
    have htaken : (row.eventId, row.signedEvent.toDict) ∈ w₂.published := by
      rw [hw₂]
      simp [World.taken]
    refine safe_op.mpr fun w₃ hw₃ hinv _ r w₄ hs₄ => ?_
    have hack : ∀ k workerId at_ stored,
        Op.markPublished row.eventId relay.workerId instant = .markPublished k workerId at_ →
        w₃.operations.outbox.get? k = some stored →
        (k, stored.signedEvent.toDict) ∈ w₃.published := by
      intro k workerId at_ stored heq hstored
      cases heq
      obtain ⟨row', hrow', hevent⟩ := hknown.rely hw₃
      rw [hstored, Option.some.injEq] at hrow'
      subst hrow'
      rw [show stored.signedEvent = row.signedEvent from congrArg OutboxEvent.signedEvent hevent]
      exact hw₃.2 htaken
    obtain ⟨hinv₄, hg₄⟩ := step (o := Op.markPublished _ _ _) hinv trivial hack hs₄
    exact ⟨hinv₄, hg₄, 0, rfl, safe_ret.mpr fun _ _ _ => rfl⟩

theorem respects_publishAll {relay : OutboxRelay} {instant : Instant} {rows : List OutboxRecord}
    (hrows : ∀ row ∈ rows, Known row w) (hinv : protocol.Inv w) :
    Respects d (relay.publishAll instant rows) w := by
  induction rows generalizing w with
  | nil => exact safe_ret.mpr fun _ _ _ => rfl
  | cons row rows ih =>
    refine Safe.bind (fun _ _ _ => rely_of_guarantee)
      (respects_publishOne (hrows row List.mem_cons_self)) hinv ?_ fun _ _ _ _ _ h => h
    rintro n outcome w₁ hw₁ hinv₁ rfl
    refine Safe.bind (fun _ _ _ => rely_of_guarantee)
      (ih (fun row' hrow' => (hrows row' (List.mem_cons_of_mem _ hrow')).rely hw₁) hinv₁) hinv₁ ?_
      fun _ _ _ _ _ h => h
    rintro n rest w₂ - - rfl
    exact safe_ret.mpr fun _ _ _ => rfl

/-- `publish_batch` keeps the protocol. -/
theorem respects_publishBatch {relay : OutboxRelay} {limit : Int} {at_ : Datetime} :
    Respects d (relay.publishBatch limit at_) w := by
  unfold OutboxRelay.publishBatch
  refine Safe.lift (fun instant _ => ?_) fun _ _ => safe_ret.mpr fun _ _ _ => rfl
  refine Respects.calm_bind (o := Op.claimOutbox _ _ _ _) trivial fun r w₁ w₂ _ hinv₁ hinv₂ hs => ?_
  cases r with
  | error exn => exact safe_ret.mpr fun _ _ _ => rfl
  | ok claimed =>
    refine respects_publishAll (fun row hrow => ?_) hinv₂
    rcases Commits.cases (sem_claimOutbox.mp hs) with ⟨a, st, hst, heq, rfl⟩ | ⟨_, -, heq, -⟩
    · cases heq
      obtain ⟨rows, hrows, rfl, rfl⟩ := OperationsStore.claimOutbox_eq_ok hinv₁.1 hst
      obtain ⟨row₀, hrow₀, rfl⟩ := List.mem_map.mp hrow
      obtain ⟨hget, hclaimable⟩ := hrows row₀ hrow₀
      rcases OperationsStore.get?_claimRows hrows hget (.inl hget) with h | ⟨h, -⟩
      · exact ⟨row₀, h, rfl⟩
      · exact ⟨_, h, rfl⟩
    · cases heq

/-! ## The coordinator adds fresh events -/

theorem calm_of_part {o : Op} (h : o.part ≠ .operations) : calm o := by
  cases o <;> trivial

open ProviderSubmissionCoordinator

/-- The event that the coordinator commits is fresh. -/
theorem ops_event_bind {α : Type} {s : ProviderSubmissionRecord} {idempotent : Bool} {at_ : Instant}
    {f : OutboxRecord → Code α} (hf : ∀ row, row.Fresh → (f row).Ops calm) :
    (event d s idempotent at_ >>= f).Ops calm := by
  unfold event
  dsimp only
  rw [Prog.bind_assoc]
  refine Prog.Ops.bind (Prog.ops_liftM _) fun eventId => ?_
  rw [Prog.bind_assoc]
  exact Prog.Ops.bind (ops_sign.mpr trivial) fun signed => hf _ ⟨rfl, rfl, rfl⟩

theorem ops_prepare {rttId : String} {at_ : Datetime} : (prepare d rttId at_).Ops calm := by
  unfold prepare
  repeat' first
    | with_reducible exact Prog.ops_pure _
    | with_reducible exact Prog.ops_liftM _
    | with_reducible refine ops_event_bind fun _ _ => ?_
    | with_reducible refine Prog.Ops.bind ?_ fun _ => ?_
    | ((with_reducible refine ops_requireValid ?_); trivial)
    | ((with_reducible refine ops_requireUtt.mpr ?_); trivial)
    | exact ops_call.mpr trivial
    | exact ops_call.mpr ‹OutboxRecord.Fresh _›

theorem ops_complete {record : ProviderSubmissionRecord} {result : ProviderSubmissionResult}
    {at_ : Instant} : (complete d record result at_).Ops calm := by
  unfold complete
  repeat' first
    | with_reducible exact Prog.ops_pure _
    | with_reducible exact Prog.ops_liftM _
    | with_reducible refine ops_event_bind fun _ _ => ?_
    | with_reducible refine Prog.Ops.bind ?_ fun _ => ?_
    | exact ops_call.mpr ‹OutboxRecord.Fresh _›

theorem ops_send {record : ProviderSubmissionRecord} {request : ProviderExecutionRequest}
    {adapter : ProviderAdapter} {at_ : Instant} :
    (send d record request adapter at_).Ops calm := by
  have hsubmit : (submit adapter request).outcome.Ops calm := by
    refine Prog.Ops.outcome (ops_submit.mono fun o ho => calm_of_part ?_)
    rcases ho with ho | ho | ho <;> simp [ho]
  unfold send
  refine ops_event_bind fun row hrow => ?_
  refine Prog.Ops.bind (ops_call.mpr hrow) fun _ => ?_
  exact Prog.Ops.bind hsubmit fun _ => ops_complete

theorem ops_dispatch {rttId : String} {adapter : ProviderAdapter} {at_ : Datetime} :
    (dispatch d rttId adapter at_).Ops calm := by
  unfold dispatch
  repeat' first
    | with_reducible exact Prog.ops_pure _
    | with_reducible exact Prog.ops_liftM _
    | with_reducible exact ops_prepare
    | with_reducible exact ops_complete
    | with_reducible exact ops_send
    | with_reducible refine Prog.Ops.bind ?_ fun _ => ?_
    | split_ifs

/-! ## Runs -/

/-- Every call keeps the protocol of events. -/
theorem respects_body (c : Call) (w : World) : Respects d (c.body d) w := by
  have hother : Part.operations ∉ c.parts → Respects d (c.body d) w := fun h =>
    respects_of_calm ((ops_body_ne d h).mono fun _ ho => calm_of_part ho)
  cases c with
  | publishBatch => exact Safe.map _ respects_publishBatch (fun _ _ _ h => h) fun _ _ _ h => h
  | prepare => exact respects_of_calm (ops_map _ ops_prepare)
  | dispatch => exact respects_of_calm (ops_map _ ops_dispatch)
  | issueQuote | accept | buildPlan | startNext | recordFailure | recordSuccess
  | resolveReconciliation => exact hother (by simp [Call.parts])

variable {w₀ : World} {x y : Config Op.Resp Call Exn Reply World}
  {l : List (System.Event Call Op World)}

/-- The protocol of events holds throughout every run. -/
theorem holds_of_reachable (hops : w₀.operations = .empty) (hx : (system d).Reachable w₀ x) :
    protocol.Holds (system d) (fun _ _ => Guarantee) (fun _ n _ _ => n = 0) x := by
  have hG : ∀ (_ : ℕ) (_ : Call) (o : Op) (s s' : World), Guarantee o s s' → protocol.Rely s s' :=
    fun _ _ _ _ _ => rely_of_guarantee
  have hbody : ∀ (_ : ℕ) (c : Call) (s : World), True → protocol.Inv s →
      Safe protocol ((system d).sem c) Guarantee (fun n _ _ => n = 0) ((system d).body c) 0 s :=
    fun _ c s _ _ => respects_body c s
  refine System.holds_of_reachable hG ?_ rfl hbody (fun _ _ => trivial) hx
  simp [protocol, OperationsStore.Keyed, hops, OperationsStore.empty]

/-- A worker that does not own a row can neither acknowledge nor reschedule it. -/
theorem refused_of_owner_ne {st : OperationsStore} {k workerId : String} {row : OutboxRecord}
    (hrow : st.outbox.get? k = some row) (howner : row.leaseOwner ≠ some workerId) :
    (∀ at_, ∃ exn, st.markPublished k workerId at_ = .error exn) ∧
      ∀ at_ availableAt error maxAttempts,
        ∃ exn, st.reschedule k workerId at_ availableAt error maxAttempts = .error exn := by
  have hrefused : st.requireOwnedEvent k workerId =
      .error ⟨.permissionError, "worker does not own the outbox lease"⟩ := by
    unfold OperationsStore.requireOwnedEvent
    simp [hrow, howner]
  refine ⟨fun at_ => ?_, fun at_ availableAt error maxAttempts => ?_⟩
  · unfold OperationsStore.markPublished
    rw [hrefused]
    exact ⟨_, rfl⟩
  · unfold OperationsStore.reschedule
    split_ifs
    · exact ⟨_, rfl⟩
    · rw [hrefused]
      exact ⟨_, rfl⟩
    · exact ⟨_, rfl⟩

end Delivery

namespace Sample

/-- A worker of the relay. -/
def relay (workerId : String) : OutboxRelay := ⟨workerId, 30, 10⟩

end Sample

end RailOne
