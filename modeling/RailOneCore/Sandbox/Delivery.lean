import RailOneCore.Library.Schedule
import RailOneCore.Sandbox.Workers

/-!
# The delivery of simulated effects

What holds of the effects in every run, however workers interleave, crash and take leases from each
other.  Each step moves the store as a leased work queue is moved, so the guarantees of such queues hold
of the records; that nothing is delivered that no consumer has taken, and nothing is handed over before it
is due, are invariants of the workers' protocol.
-/

namespace RailOne

open Concurrent Ordered

/-! ## What a step does -/

namespace EffectWorld

variable {w w' : EffectWorld} {o : EffectOp}

/-- The consumer has taken the effect. -/
def Applied (effect : ScheduledProviderEffect) (w : EffectWorld) : Prop :=
  ∃ h ∈ w.handed, h.effect = effect ∧ h.outcome = .ok ()

theorem sem_of_ne_apply {r : o.Resp} (ho : ∀ effect, o ≠ .apply effect) :
    EffectWorld.sem o w r w' ↔ o.answer w.store = (r, w'.store) ∧ w'.handed = w.handed := by
  cases o with
  | apply effect => exact absurd rfl (ho effect)
  | currentTick | schedule | advanceAndClaim | markDelivered | reschedule => exact Iff.rfl

/-- The step schedules new effects, hands over due ones, and acknowledges what has been applied. -/
def Allowed (w : EffectWorld) : EffectOp → Prop
  | .schedule record => ∃ effect, record = .scheduled effect
  | .apply effect => effect.dueTick ≤ w.store.tick
  | .markDelivered k _ => ∀ record, w.store.records.get? k = some record → Applied record.effect w
  | .currentTick | .advanceAndClaim .. | .reschedule .. => True

/-- What a step guarantees. -/
structure Guarantee (o : EffectOp) (w w' : EffectWorld) : Prop where
  moves : InMemorySandboxEffectStore.QueueMoves w'.store.tick o.act w.store w'.store
  tick : w.store.tick ≤ w'.store.tick
  handed : w.handed ⊆ w'.handed
  /-- An effect is stored once it has been scheduled, unless another one has its identifier. -/
  scheduled : ∀ record, o = .schedule record →
    ∃ stored, w'.store.records.get? record.effect.effectId = some stored ∧
      (stored.effect ≠ record.effect → w' = w)

/-- What workers agree on. -/
def protocol : Protocol EffectWorld where
  Inv w := w.store.Consistent ∧ (∀ h ∈ w.handed, h.effect.dueTick ≤ h.tick) ∧
    ∀ k record, w.store.records.get? k = some record → record.state = .delivered →
      Applied record.effect w
  Rely w w' := w.store.tick ≤ w'.store.tick ∧
    (∀ k record, w.store.records.get? k = some record →
      ∃ record', w'.store.records.get? k = some record' ∧ record'.effect = record.effect) ∧
    w.handed ⊆ w'.handed
  avail _ := 0
  rely_refl w := ⟨le_rfl, fun k record hget => ⟨record, hget, rfl⟩, fun _ hh => hh⟩
  rely_trans w₁ w₂ w₃ h h' := by
    refine ⟨h.1.trans h'.1, fun k record hget => ?_, List.Subset.trans h.2.2 h'.2.2⟩
    obtain ⟨record₂, hget₂, heffect₂⟩ := h.2.1 k record hget
    obtain ⟨record₃, hget₃, heffect₃⟩ := h'.2.1 k record₂ hget₂
    exact ⟨record₃, hget₃, heffect₃.trans heffect₂⟩

theorem Applied.mono {effect : ScheduledProviderEffect} (h : Applied effect w)
    (hhanded : w.handed ⊆ w'.handed) : Applied effect w' := by
  obtain ⟨a, ha, heffect, hok⟩ := h
  exact ⟨a, hhanded ha, heffect, hok⟩

theorem rely_of_guarantee (h : Guarantee o w w') : protocol.Rely w w' := by
  refine ⟨h.tick, fun k record hget => ?_, h.handed⟩
  obtain ⟨e, he, hmove⟩ := h.moves.moves k record.entry
    (InMemorySandboxEffectStore.queue_eq_some.mpr ⟨record, hget, rfl⟩)
  obtain ⟨record', hget', rfl⟩ := InMemorySandboxEffectStore.queue_eq_some.mp he
  exact ⟨record', hget', hmove.item⟩

/-- The invariant after a step that hands over only what is due and acknowledges only what has been
applied. -/
theorem inv_of_guarantee (hinv : protocol.Inv w) (hg : Guarantee o w w')
    (hdue : ∀ h ∈ w'.handed, h.effect.dueTick ≤ h.tick)
    (hack : ∀ k workerId, o = .markDelivered k workerId →
      ∀ record, w.store.records.get? k = some record → Applied record.effect w') :
    protocol.Inv w' := by
  obtain ⟨hconsistent, -, hdelivered⟩ := hinv
  refine ⟨hg.moves.consistent hconsistent hg.tick, hdue, fun k record' hget' hstate' => ?_⟩
  have he' := InMemorySandboxEffectStore.queue_eq_some.mpr ⟨record', hget', rfl⟩
  have hdone := EffectDeliveryState.phase_eq_done.mpr hstate'
  cases hget : w.store.records.get? k with
  | none =>
    have hnone : w.store.queue k = none := by simp [InMemorySandboxEffectStore.queue, hget]
    have hphase := (hg.moves.adds k _ hnone he').1.phase
    rw [show record'.entry.phase = .done from hdone] at hphase
    cases hphase
  | some record =>
    obtain ⟨e, he, hmove⟩ := hg.moves.moves k record.entry
      (InMemorySandboxEffectStore.queue_eq_some.mpr ⟨record, hget, rfl⟩)
    rw [he', Option.some.injEq] at he
    subst he
    have hitem : record'.effect = record.effect := hmove.item
    rw [hitem]
    by_cases hstate : record.state = .delivered
    · exact (hdelivered k record hget hstate).mono hg.handed
    · -- the entry has just been finished, so this step acknowledges it
      have hphase : record.entry.phase ≠ .done := fun hphase =>
        hstate (EffectDeliveryState.phase_eq_done.mp hphase)
      obtain ⟨workerId, ha⟩ := hmove.acknowledged_of_done hphase hdone
      cases o <;> cases ha
      exact hack k workerId rfl record hget

/-- After an effect has been scheduled its identifier is taken. -/
theorem stored_of_schedule {record : ProviderEffectRecord} {st st' : InMemorySandboxEffectStore}
    {r : Except Exn ProviderEffectRecord} (h : (EffectOp.schedule record).answer st = (r, st')) :
    ∃ stored, st'.records.get? record.effect.effectId = some stored ∧
      (stored.effect ≠ record.effect → st' = st) := by
  rcases EffectOp.commit_eq h with ⟨stored, hst, -⟩ | ⟨exn, hst, -, rfl⟩
  · rcases InMemorySandboxEffectStore.schedule_eq_ok hst with ⟨rfl, hget, -⟩ | ⟨-, -, rfl⟩
    · exact ⟨stored, hget, fun _ => rfl⟩
    · exact ⟨record, Dict.get?_set_self _ _ _, fun hne => absurd rfl hne⟩
  · obtain ⟨existing, hget, -⟩ := InMemorySandboxEffectStore.schedule_eq_error hst
    exact ⟨existing, hget, fun _ => rfl⟩

/-- A step that is allowed keeps the protocol. -/
theorem step {r : o.Resp} (hinv : protocol.Inv w) (ho : w.Allowed o) (h : EffectWorld.sem o w r w') :
    protocol.Inv w' ∧ Guarantee o w w' := by
  have hdue := hinv.2.1
  by_cases happly : ∃ effect, o = .apply effect
  · obtain ⟨effect, rfl⟩ := happly
    obtain rfl := h
    have hg : Guarantee (.apply effect) w
        { w with handed := w.handed ++ [⟨effect, w.store.tick, r⟩] } :=
      ⟨.refl _ _ _ _ _, le_rfl, List.subset_append_left _ _, fun _ => nofun⟩
    refine ⟨inv_of_guarantee hinv hg (fun a ha => ?_) fun _ _ => nofun, hg⟩
    rcases List.mem_append.mp ha with ha | ha
    · exact hdue a ha
    · rw [List.mem_singleton] at ha
      subst ha
      exact ho
  · obtain ⟨hanswer, hhanded⟩ := (sem_of_ne_apply fun effect heq => happly ⟨effect, heq⟩).mp h
    have hfresh : o.SchedulesFresh := by
      rintro record rfl
      exact ho
    obtain ⟨hmoves, htick⟩ := EffectOp.moves_answer hinv.1 hfresh hanswer
    have hg : Guarantee o w w' := by
      refine ⟨hmoves, htick, hhanded ▸ fun _ hh => hh, ?_⟩
      rintro record rfl
      obtain ⟨stored, hget, hrefused⟩ := stored_of_schedule hanswer
      refine ⟨stored, hget, fun hne => ?_⟩
      obtain ⟨store', handed'⟩ := w'
      rw [show store' = w.store from hrefused hne, show handed' = w.handed from hhanded]
    refine ⟨inv_of_guarantee hinv hg (hhanded ▸ hdue) ?_, hg⟩
    rintro k workerId rfl record hget
    exact (ho record hget).mono hg.handed

/-! ## Programs -/

/-- The program keeps what workers agree on. -/
def Respects {α : Type} (p : EffectCode α) (w : EffectWorld) : Prop :=
  Safe protocol EffectWorld.sem Guarantee (fun n _ _ => n = 0) p 0 w

variable {α : Type} {effect : ScheduledProviderEffect} {worker : SandboxEffectWorker}

theorem Respects.ret (x : Except Exn α) : Respects (.ret x) w := safe_ret.mpr fun _ _ _ => rfl

/-- A check before the rest. -/
theorem Respects.lift {β : Type} {x : Except Exn β} {f : β → EffectCode α}
    (hf : ∀ b, Respects (f b) w) : Respects (liftM x >>= f) w :=
  Safe.lift (fun b _ => hf b) fun e _ => Respects.ret (.error e)

/-- An allowed step before the rest. -/
theorem Respects.op {f : o.Resp → EffectCode α}
    (ho : ∀ w₁, protocol.Rely w w₁ → w₁.Allowed o)
    (hf : ∀ r w₁ w₂, protocol.Rely w w₁ → protocol.Inv w₁ → protocol.Inv w₂ →
      EffectWorld.sem o w₁ r w₂ → Respects (f r) w₂) : Respects (.op o f) w := by
  refine safe_op.mpr fun w₁ hw₁ hinv _ r w₂ hs => ?_
  obtain ⟨hinv₂, hg⟩ := step hinv (ho w₁ hw₁) hs
  exact ⟨hinv₂, hg, 0, rfl, hf r w₁ w₂ hw₁ hinv hinv₂ hs⟩

/-- An allowed step before the rest, which it ends when it raises. -/
theorem Respects.perform {f : o.Ret → EffectCode α}
    (ho : ∀ w₁, protocol.Rely w w₁ → w₁.Allowed o)
    (hf : ∀ a w₁ w₂, protocol.Rely w w₁ → protocol.Inv w₁ → protocol.Inv w₂ →
      EffectWorld.sem o w₁ (.ok a) w₂ → Respects (f a) w₂) :
    Respects (EffectCode.perform o >>= f) w := by
  refine Respects.op ho fun r w₁ w₂ hw₁ hinv₁ hinv₂ hs => ?_
  cases r with
  | error exn => exact Respects.ret _
  | ok a => exact hf a w₁ w₂ hw₁ hinv₁ hinv₂ hs

theorem Respects.bind {β : Type} {p : EffectCode β} {f : β → EffectCode α} (hinv : protocol.Inv w)
    (hp : Respects p w) (hf : ∀ b w', protocol.Rely w w' → protocol.Inv w' → Respects (f b) w') :
    Respects (p >>= f) w := by
  refine Safe.bind (fun _ _ _ => rely_of_guarantee) hp hinv ?_ fun _ _ _ _ _ hn => hn
  rintro n b w' hw' hinv' rfl
  exact hf b w' hw' hinv'

/-- The effect is stored and due. -/
structure Due (effect : ScheduledProviderEffect) (w : EffectWorld) : Prop where
  stored : ∃ record, w.store.records.get? effect.effectId = some record ∧ record.effect = effect
  tick : effect.dueTick ≤ w.store.tick

theorem Due.rely (h : Due effect w) (hw : protocol.Rely w w') : Due effect w' := by
  obtain ⟨record, hget, heffect⟩ := h.stored
  obtain ⟨record', hget', heffect'⟩ := hw.2.1 _ record hget
  exact ⟨⟨record', hget', heffect'.trans heffect⟩, h.tick.trans hw.1⟩

/-- A failed effect may be rescheduled at any time. -/
theorem respects_reschedule {effectId workerId error : String} {delayTicks maxAttempts : Int} :
    Respects (SandboxEffectBroker.reschedule effectId workerId delayTicks error maxAttempts) w :=
  Respects.perform (o := .reschedule ..) (fun _ _ => trivial) fun _ _ _ _ _ _ _ =>
    Respects.ret _

/-- An effect is acknowledged only after the consumer has taken it. -/
theorem respects_markDelivered {workerId : String} (h : Due effect w) (happlied : Applied effect w) :
    Respects (SandboxEffectBroker.markDelivered effect.effectId workerId) w := by
  refine Respects.perform (o := .markDelivered effect.effectId workerId) (fun w₁ hw₁ record hget => ?_)
    fun _ _ _ _ _ _ _ => Respects.ret _
  obtain ⟨record', hget', heffect⟩ := (h.rely hw₁).stored
  rw [hget, Option.some.injEq] at hget'
  subst hget'
  rw [heffect]
  exact happlied.mono hw₁.2.2

/-- An effect that is due may be handed over, and is acknowledged only if the consumer has returned. -/
theorem respects_applyEffect (h : Due effect w) : Respects (worker.applyEffect effect) w := by
  unfold SandboxEffectWorker.applyEffect
  refine Respects.op (o := .apply effect) (fun w₁ hw₁ => (h.rely hw₁).tick)
    fun r w₁ w₂ hw₁ hinv₁ hinv₂ hs => ?_
  have hw₂ : w₂ = { w₁ with handed := w₁.handed ++ [⟨effect, w₁.store.tick, r⟩] } := hs
  have hdue : Due effect w₂ := by
    have hdue₁ := h.rely hw₁
    exact ⟨hw₂ ▸ hdue₁.stored, hw₂ ▸ hdue₁.tick⟩
  cases r with
  | error exn =>
    change Respects (SandboxEffectBroker.reschedule _ _ _ _ _ >>= _) w₂
    exact Respects.bind hinv₂ respects_reschedule fun _ _ _ _ => Respects.lift fun _ => Respects.ret _
  | ok _ =>
    have happlied : Applied effect w₂ := by
      rw [hw₂]
      exact ⟨_, List.mem_append_right _ List.mem_cons_self, rfl, rfl⟩
    change Respects (SandboxEffectBroker.markDelivered _ _ >>= _) w₂
    exact Respects.bind hinv₂ (respects_markDelivered hdue happlied) fun _ _ _ _ =>
      Respects.lift fun _ => Respects.ret _

theorem respects_applyAll {records : List ProviderEffectRecord} (hinv : protocol.Inv w)
    (h : ∀ record ∈ records, Due record.effect w) : Respects (worker.applyAll records) w := by
  induction records generalizing w with
  | nil => exact Respects.ret _
  | cons record records ih =>
    refine Respects.bind hinv (respects_applyEffect (h record List.mem_cons_self)) fun applied w₁ hw₁ hinv₁ => ?_
    refine Respects.bind hinv₁ (ih hinv₁ fun r hr => (h r (List.mem_cons_of_mem _ hr)).rely hw₁)
      fun _ _ _ _ => Respects.ret _

/-- What a worker has claimed is stored and due. -/
theorem due_of_claimed {workerId : String} {ticks leaseTicks limit : Int}
    {records : List ProviderEffectRecord} (hinv : protocol.Inv w) (hinv' : protocol.Inv w')
    (h : EffectWorld.sem (.advanceAndClaim workerId ticks leaseTicks limit) w (.ok records) w') :
    ∀ record ∈ records, Due record.effect w' := by
  intro record hrecord
  rcases EffectOp.commit_eq h.1 with ⟨result, hst, heq⟩ | ⟨exn, -, heq, -⟩
  · obtain rfl := Except.ok.inj heq
    obtain ⟨rows, hrows, rfl, -, hstore⟩ :=
      InMemorySandboxEffectStore.advanceAndClaim_eq_ok hinv.1.keyed hst
    obtain ⟨row, hrow, rfl⟩ := List.mem_map.mp hrecord
    have hnew : w'.store.records.get? row.effect.effectId = some
        (InMemorySandboxEffectStore.claimed workerId (w.store.tick + ticks) leaseTicks row) := by
      rw [hstore]
      exact InMemorySandboxEffectStore.get?_claimed_of_mem _ _ _ (fun r hr => (hrows r hr).1) hrow
    have hentry := hinv'.1 _ _ (InMemorySandboxEffectStore.queue_eq_some.mpr ⟨_, hnew, rfl⟩)
    exact ⟨⟨_, hnew, rfl⟩, hentry.1.due_le_now rfl⟩
  · cases heq

/-! ## Runs -/

theorem respects_body (c : EffectCall) (w : EffectWorld) : Respects c.body w := by
  cases c with
  | runOnce worker =>
    exact Respects.perform (o := .advanceAndClaim ..) (fun _ _ => trivial)
      fun _ _ _ _ hinv₁ hinv₂ hs => respects_applyAll hinv₂ (due_of_claimed hinv₁ hinv₂ hs)
  | schedule effect =>
    exact Respects.perform (o := .schedule _) (fun _ _ => ⟨effect, rfl⟩) fun _ _ _ _ _ _ _ =>
      Respects.ret _

/-- The world before anything has been scheduled. -/
def initial : EffectWorld := ⟨.empty, []⟩

theorem inv_initial : protocol.Inv initial := by
  refine ⟨fun k e he => ?_, nofun, fun k record hget => ?_⟩
  · obtain ⟨record, hget, -⟩ := InMemorySandboxEffectStore.queue_eq_some.mp he
    cases hget
  · cases hget

variable {x y : Config EffectOp.Resp EffectCall Exn (List String) EffectWorld}
  {l : List (System.Event EffectCall EffectOp EffectWorld)}

/-- What workers agree on holds throughout every run. -/
theorem holds_of_reachable (hx : effectSystem.Reachable initial x) :
    protocol.Holds effectSystem (fun _ _ => Guarantee) (fun _ n _ _ => n = 0) x := by
  have hbody : ∀ (_ : ℕ) (c : EffectCall) (w : EffectWorld), True → protocol.Inv w →
      Safe protocol (effectSystem.sem c) Guarantee (fun n _ _ => n = 0) (effectSystem.body c) 0 w :=
    fun _ c w _ _ => respects_body c w
  exact System.holds_of_reachable (fun _ _ _ _ _ => rely_of_guarantee) inv_initial rfl hbody
    (fun _ _ => trivial) hx

/-- Every step of a run has a guaranteed effect. -/
theorem guaranteed_of_trace (hx : effectSystem.Reachable initial x) (h : effectSystem.Trace x l y) :
    ∀ e ∈ l, System.Guaranteed protocol (fun _ _ => Guarantee) y.state e :=
  (System.holds_of_trace (fun _ _ _ _ _ => rely_of_guarantee) (holds_of_reachable hx)
    (fun _ c w _ => respects_body c w) h).2.1

/-- The step is a claim that gives the effect to the worker. -/
def Claims (workerId k : String) (e : System.Event EffectCall EffectOp EffectWorld) : Prop :=
  (∃ ticks leaseTicks limit, e.op = .advanceAndClaim workerId ticks leaseTicks limit) ∧
    ∃ record, e.after.store.records.get? k = some record ∧ record.leaseOwner = some workerId

theorem claims_of_takes {workerId k : String} {e : System.Event EffectCall EffectOp EffectWorld}
    (h : Leases.Takes (fun w : EffectWorld => w.store.queue) (fun _ => EffectOp.act) workerId k e) :
    Claims workerId k e := by
  obtain ⟨ha, entry, hentry, howner⟩ := h
  obtain ⟨record, hget, rfl⟩ := InMemorySandboxEffectStore.queue_eq_some.mp hentry
  obtain ⟨c, o, before, after⟩ := e
  cases o <;> cases ha
  exact ⟨⟨_, _, _, rfl⟩, record, hget, howner⟩

/-- What a run makes of a record: its effect stays, a finished record stays finished, and a worker that
does not own the record does not get it without a claim. -/
theorem record_of_trace (hx : effectSystem.Reachable initial x) (h : effectSystem.Trace x l y)
    {k : String} {record : ProviderEffectRecord}
    (hget : x.state.store.records.get? k = some record) :
    ∃ record', y.state.store.records.get? k = some record' ∧ record'.effect = record.effect ∧
      (record.state = .delivered ∨ record.state = .deadLetter → record'.state = record.state) ∧
      ∀ workerId, record.leaseOwner ≠ some workerId → (∀ e ∈ l, ¬ Claims workerId k e) →
        record'.leaseOwner ≠ some workerId := by
  have hmoves := fun e he => (guaranteed_of_trace hx h e he).effect.choose_spec.moves
  obtain ⟨entry', hentry', hitem, hfinished, howner⟩ := Leases.entry_of_trace
    (fun w : EffectWorld => w.store.queue) (fun w => w.store.tick) (fun _ => EffectOp.act) h hmoves
    (InMemorySandboxEffectStore.queue_eq_some.mpr ⟨record, hget, rfl⟩)
  obtain ⟨record', hget', rfl⟩ := InMemorySandboxEffectStore.queue_eq_some.mp hentry'
  refine ⟨record', hget', hitem, fun hstate => ?_, fun workerId hne hclaims => ?_⟩
  · have hdone : record.entry.Finished := by
      rcases hstate with hstate | hstate
      · exact .inl (EffectDeliveryState.phase_eq_done.mpr hstate)
      · exact .inr (EffectDeliveryState.phase_eq_abandoned.mpr hstate)
    have hphase : record'.state.phase = record.state.phase :=
      congrArg Leases.Entry.phase (hfinished hdone)
    rcases hstate with hstate | hstate
    · rw [hstate] at hphase ⊢
      exact EffectDeliveryState.phase_eq_done.mp hphase
    · rw [hstate] at hphase ⊢
      exact EffectDeliveryState.phase_eq_abandoned.mp hphase
  · exact howner workerId hne fun e he htakes => hclaims e he (claims_of_takes htakes)

end EffectWorld

/-- In every run of any number of workers, whatever crashes: nothing is handed to a consumer before it is
due, leases belong to effects in flight, and a consumer has taken what is delivered; and however the
run goes on, an effect stays stored and unaltered, a finished one stays as it is, and a worker that does
not own an effect can neither acknowledge nor reschedule it before it has claimed it. -/
theorem effects_delivered_under_leases
    {x : Config EffectOp.Resp EffectCall Exn (List String) EffectWorld}
    (hx : effectSystem.Reachable EffectWorld.initial x) :
    (∀ h ∈ x.state.handed, h.effect.dueTick ≤ h.tick) ∧
    (∀ k record, x.state.store.records.get? k = some record →
      ((record.leaseOwner.isSome = true ↔ record.state = .inFlight) ∧
        (record.leaseUntilTick.isSome = true ↔ record.state = .inFlight)) ∧
      (record.state = .delivered →
        ∃ h ∈ x.state.handed, h.effect = record.effect ∧ h.outcome = .ok ())) ∧
    ∀ l y, effectSystem.Trace x l y →
      (∀ e ∈ l, ∀ record, e.op = .schedule record →
        ∃ stored, y.state.store.records.get? record.effect.effectId = some stored ∧
          (stored.effect ≠ record.effect → e.after = e.before)) ∧
      ∀ k record, x.state.store.records.get? k = some record →
        ∃ record', y.state.store.records.get? k = some record' ∧ record'.effect = record.effect ∧
          (record.state = .delivered ∨ record.state = .deadLetter → record'.state = record.state) ∧
          ∀ workerId, record.leaseOwner ≠ some workerId →
            (∀ e ∈ l, ¬ EffectWorld.Claims workerId k e) →
            (∃ exn, y.state.store.markDelivered k workerId = .error exn) ∧
            ∀ delayTicks error maxAttempts, ∃ exn,
              y.state.store.reschedule k workerId delayTicks error maxAttempts = .error exn := by
  obtain ⟨⟨hconsistent, hdue, hdelivered⟩, -⟩ := EffectWorld.holds_of_reachable hx
  refine ⟨hdue, fun k record hget => ?_, fun l y h => ⟨fun e he record ho => ?_, fun k record hget => ?_⟩⟩
  · have hsound := (hconsistent k record.entry
      (InMemorySandboxEffectStore.queue_eq_some.mpr ⟨record, hget, rfl⟩)).1
    refine ⟨⟨hsound.owner.trans ?_, hsound.until_.trans ?_⟩, hdelivered k record hget⟩
    · exact EffectDeliveryState.phase_eq_inFlight
    · exact EffectDeliveryState.phase_eq_inFlight
  · have hguaranteed := EffectWorld.guaranteed_of_trace hx h e he
    obtain ⟨stored, hstored, hrefused⟩ := hguaranteed.effect.choose_spec.scheduled record ho
    obtain ⟨stored', hstored', heffect⟩ := hguaranteed.since.2.1 _ stored hstored
    exact ⟨stored', hstored', fun hne => hrefused (heffect ▸ hne)⟩
  · obtain ⟨record', hget', heffect, hfinished, howner⟩ := EffectWorld.record_of_trace hx h hget
    refine ⟨record', hget', heffect, hfinished, fun workerId hne hclaims => ?_⟩
    obtain ⟨hmark, hreschedule⟩ :=
      InMemorySandboxEffectStore.refused_of_owner_ne hget' (howner workerId hne hclaims)
    exact ⟨⟨_, hmark⟩, hreschedule⟩

/-! ## A run of the sample -/

namespace Sample

/-- The store answers, and the consumer always returns. -/
def effectAnswer (_ : EffectCall) (o : EffectOp) (w : EffectWorld) : Option (o.Resp × EffectWorld) :=
  match o with
  | .apply effect => some (.ok (), { w with handed := w.handed ++ [⟨effect, w.store.tick, .ok ()⟩] })
  | o => some ((o.answer w.store).1, { w with store := (o.answer w.store).2 })

theorem sem_of_effectAnswer {c : EffectCall} {o : EffectOp} {w w' : EffectWorld} {r : o.Resp}
    (h : effectAnswer c o w = some (r, w')) : effectSystem.sem c o w r w' := by
  cases o with
  | apply effect =>
    cases h
    rfl
  | currentTick | schedule | advanceAndClaim | markDelivered | reschedule =>
    cases h
    exact ⟨rfl, rfl⟩

/-- A worker with leases of one tick. -/
def sandboxWorker (workerId : String) : SandboxEffectWorker :=
  { workerId := workerId, leaseTicks := 1, retryDelay_policy := by decide }

/-- An effect is scheduled, one worker claims it, and then another one, whose claim ends the lease of the
first one. -/
def reclaiming : Config EffectOp.Resp EffectCall Exn (List String) EffectWorld :=
  effectSystem.schedule effectAnswer
    [.start (.schedule ⟨"SIMEFF-1", "BANK-KE", "RTT-1", "SIMREF-1", "SETTLED", "0", 1, .empty⟩), .step 0,
      .start (.runOnce (sandboxWorker "W1")), .step 1, .start (.runOnce (sandboxWorker "W2")), .step 2]
    ⟨EffectWorld.initial, []⟩

theorem reachable_reclaiming : effectSystem.Reachable EffectWorld.initial reclaiming :=
  System.steps_schedule (fun _ _ _ _ _ h => sem_of_effectAnswer h) _ _

end Sample

/-- In the sample, the second worker owns the effect, and the first one cannot acknowledge it, whatever
happens, until it has claimed it again. -/
theorem effects_delivered_under_leases_sample :
    ((Sample.reclaiming.state.store.records.get? "SIMEFF-1").bind fun record => record.leaseOwner) =
        some "W2" ∧
      ∀ l y, effectSystem.Trace Sample.reclaiming l y → (∀ e ∈ l, ¬ EffectWorld.Claims "W1" "SIMEFF-1" e) →
        ∃ exn, y.state.store.markDelivered "SIMEFF-1" "W1" = .error exn := by
  have howner : ((Sample.reclaiming.state.store.records.get? "SIMEFF-1").bind fun record =>
      record.leaseOwner) = some "W2" := by decide +kernel
  refine ⟨howner, fun l y h hclaims => ?_⟩
  obtain ⟨record, hget, hlease⟩ := Option.bind_eq_some_iff.mp howner
  obtain ⟨-, -, hrun⟩ := effects_delivered_under_leases Sample.reachable_reclaiming
  obtain ⟨record', -, -, -, hlost⟩ := (hrun l y h).2 "SIMEFF-1" record hget
  exact (hlost "W1" (by rw [hlease]; decide) hclaims).1

end RailOne
