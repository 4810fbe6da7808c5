import RailOneCore.Foundation.SampleRuntime
import RailOneCore.Library.Machine
import RailOneCore.Sandbox.Effects

/-!
# The replay of simulated submissions

A simulation handles one call after the other: scenarios are set, requests are submitted, the clock
advances, and the broker may be restarted over the same store.  A request that is submitted again is
answered from the memory of the broker; a broker that has been restarted computes the answer once more,
under the scenario that it knows and at the present tick.

`ReplaySafe` is what a call should do to what has been submitted, and `Remembered` the condition under
which it does.
-/

namespace RailOne

open Concurrent Ordered Machine

variable (rt : Runtime)

namespace SandboxEffectBroker

/-! ## Scenarios -/

/-- What a scenario schedules, with the offsets from the present tick. -/
def scheduledBy : EffectScenario → List (EffectType × Int)
  | .success => [(.settled, 1)]
  | .timeoutThenSuccess => [(.timeout, 1), (.settled, 2)]
  | .rejectedRetryable | .rejectedTerminal | .unknownAfterSend => []

/-- What a scenario answers. -/
def answerOf (request : ProviderExecutionRequest) : EffectScenario → ProviderSubmissionResult
  | .success | .timeoutThenSuccess => accepted rt request
  | .rejectedRetryable => ⟨.rejected, "SIM_PROVIDER_TEMPORARY", none, some .retryable, []⟩
  | .rejectedTerminal => ⟨.rejected, "SIM_PROVIDER_TERMINAL", none, some .terminal, []⟩
  | .unknownAfterSend => ⟨.unknown, "SIM_OUTCOME_UNKNOWN", none, none, []⟩

/-- Schedule effects one after the other. -/
def scheduleAll (request : ProviderExecutionRequest) : List (EffectType × Int) → EffectCode Unit
  | [] => return ()
  | p :: l => do
    schedule rt request p.1 p.2
    scheduleAll request l

/-- `_result` schedules what the scenario says, and then answers. -/
theorem result_eq (request : ProviderExecutionRequest) (scenario : EffectScenario) :
    result rt request scenario =
      scheduleAll rt request (scheduledBy scenario) >>= fun _ => pure (answerOf rt request scenario) := by
  cases scenario <;> simp [result, scheduledBy, scheduleAll, answerOf, Prog.bind_assoc]

/-- The effect that is scheduled at a tick. -/
def planned (request : ProviderExecutionRequest) (p : EffectType × Int) (tick : Int) :
    Except Exn ScheduledProviderEffect := do
  let payload ← payloadObject rt request p.1
  let effectId ← effectIdOf rt request p.1 p.2
  return effectAt rt request p.1 effectId (jsonDumps payload) (tick + p.2)

variable {rt} {request : ProviderExecutionRequest} {p : EffectType × Int}
  {l : List (EffectType × Int)} {st st' : InMemorySandboxEffectStore} {effect : ScheduledProviderEffect}
  {tick : Int}

/-- At another tick the same effect is due at another tick. -/
theorem planned_at (h : planned rt request p tick = .ok effect) (tick' : Int) :
    planned rt request p tick' = .ok { effect with dueTick := tick' + p.2 } ∧
      effect.dueTick = tick + p.2 := by
  simp only [planned, bind_eq_ok, pure_eq_ok] at h
  obtain ⟨payload, hpayload, effectId, hid, rfl⟩ := h
  refine ⟨?_, rfl⟩
  simp only [planned, hpayload, hid]
  rfl

theorem run_schedule_bind {α : Type} {record : ProviderEffectRecord}
    {f : ProviderEffectRecord → EffectCode α} :
    (EffectCode.schedule record >>= f).run EffectOp.answer st =
      match st.schedule record with
      | .ok (stored, st') => (f stored).run EffectOp.answer st'
      | .error exn => (.error exn, st) := by
  have hrun : (EffectCode.schedule record).run EffectOp.answer st = st.commit (st.schedule record) := rfl
  rw [Prog.run_bind, hrun]
  unfold InMemorySandboxEffectStore.commit
  cases st.schedule record <;> rfl

/-- One effect: it is scheduled, unless it cannot be written or its identifier is taken. -/
theorem run_schedule (st : InMemorySandboxEffectStore) :
    (schedule rt request p.1 p.2).run EffectOp.answer st =
      match planned rt request p st.tick with
      | .error exn => (.error exn, st)
      | .ok effect => match st.schedule (.scheduled effect) with
        | .ok (_, st') => (.ok (), st')
        | .error exn => (.error exn, st) := by
  unfold schedule planned
  cases payloadObject rt request p.1 with
  | error exn => rfl
  | ok payload =>
    cases effectIdOf rt request p.1 p.2 with
    | error exn => rfl
    | ok effectId =>
      change (EffectCode.schedule _ >>= fun _ => pure ()).run EffectOp.answer st = _
      rw [run_schedule_bind]
      rfl

/-- When all effects have been scheduled, they are stored, and so is what was stored before. -/
theorem scheduled_of_run (h : (scheduleAll rt request l).run EffectOp.answer st = (.ok (), st')) :
    (∀ p ∈ l, ∃ effect, planned rt request p st.tick = .ok effect ∧ st'.Stores effect) ∧
      ∀ e, st.Stores e → st'.Stores e := by
  induction l generalizing st with
  | nil =>
    cases h
    exact ⟨nofun, fun _ he => he⟩
  | cons p l ih =>
    unfold scheduleAll at h
    rw [Prog.run_bind, run_schedule] at h
    cases hplanned : planned rt request p st.tick with
    | error exn =>
      rw [hplanned] at h
      cases h
    | ok effect =>
      rw [hplanned] at h
      dsimp only at h
      cases hst : st.schedule (.scheduled effect) with
      | error exn =>
        rw [hst] at h
        cases h
      | ok result =>
        obtain ⟨stored, st₁⟩ := result
        rw [hst] at h
        obtain ⟨heffect, htick, hkept⟩ := InMemorySandboxEffectStore.stores_of_schedule hst
        obtain ⟨hrest, hkept'⟩ := ih h
        rw [htick] at hrest
        refine ⟨fun q hq => ?_, fun e he => hkept' e (hkept e he)⟩
        rcases List.mem_cons.mp hq with rfl | hq
        · exact ⟨effect, hplanned, hkept' _ heffect⟩
        · exact hrest q hq

/-- Scheduling once more, at the same tick, what is stored changes nothing. -/
theorem run_scheduleAll_of_stored
    (h : ∀ p ∈ l, ∃ effect, planned rt request p st.tick = .ok effect ∧ st.Stores effect) :
    (scheduleAll rt request l).run EffectOp.answer st = (.ok (), st) := by
  induction l with
  | nil => rfl
  | cons p l ih =>
    obtain ⟨effect, hplanned, heffect⟩ := h p List.mem_cons_self
    obtain ⟨stored, hst⟩ := heffect.schedule
    unfold scheduleAll
    rw [Prog.run_bind, run_schedule, hplanned]
    dsimp only
    rw [hst]
    exact ih fun q hq => h q (List.mem_cons_of_mem _ hq)

/-- Scheduling at another tick what is stored fails. -/
theorem run_scheduleAll_of_tick_ne (hplanned : planned rt request p tick = .ok effect)
    (hstored : st.Stores effect) (htick : st.tick ≠ tick) :
    (scheduleAll rt request (p :: l)).run EffectOp.answer st =
      (.error ⟨.runtimeError, "sandbox effect identifier collision"⟩, st) := by
  obtain ⟨hnow, hdue⟩ := planned_at hplanned st.tick
  have hne : { effect with dueTick := st.tick + p.2 } ≠ effect := fun heq => by
    have hsame := congrArg ScheduledProviderEffect.dueTick heq
    rw [hdue] at hsame
    exact htick (by simpa using hsame)
  have hcollision := hstored.collision
    (show { effect with dueTick := st.tick + p.2 }.effectId = effect.effectId from rfl) hne
  unfold scheduleAll
  rw [Prog.run_bind, run_schedule, hnow]
  dsimp only
  rw [hcollision]

/-! ## Submissions -/

variable {broker : SandboxEffectBroker}

/-- A counter whose name and labels are not empty counts. -/
theorem increment_eq_ok {name : String} {labels : List (String × String)} (hname : name ≠ "")
    (hlabels : ∀ label ∈ labels, label.1 ≠ "" ∧ label.2 ≠ "") :
    MetricsRegistry.increment name labels = .ok () := by
  unfold MetricsRegistry.increment
  rw [if_neg]
  rw [not_or, Bool.not_eq_true, List.any_eq_false]
  exact ⟨hname, fun label hlabel => by simpa using hlabels label hlabel⟩

/-- The provider of a synthetic request has a name. -/
theorem providerId_ne_empty (h : validateSynthetic request = .ok ()) : request.providerId ≠ "" := by
  intro hempty
  unfold validateSynthetic at h
  rw [hempty] at h
  split_ifs at h with hprovider
  simp [isSynthetic] at hprovider

/-- A request that the broker remembers. -/
theorem run_submit_of_some (hvalid : validateSynthetic request = .ok ())
    {entry : String × ProviderSubmissionResult}
    (hentry : broker.submissions.get? (request.providerId, request.idempotencyKey) = some entry) :
    (submit rt broker request).run EffectOp.answer st =
      if entry.1 = request.requestSha256 then (.ok (entry.2, broker), st)
      else (.error ⟨.runtimeError, "simulator idempotency material changed"⟩, st) := by
  have hcount : MetricsRegistry.increment "railone_sandbox_submit_replay_total"
      [("provider", request.providerId)] = .ok () :=
    increment_eq_ok (by decide) (by simpa using providerId_ne_empty hvalid)
  unfold submit
  simp only [hvalid, hentry, Prog.liftM_eq, Prog.ret_ok_bind]
  by_cases hsha : entry.1 = request.requestSha256
  · rw [if_pos hsha, require, if_pos hsha, hcount]
    rfl
  · rw [if_neg hsha, require, if_neg hsha]
    rfl

/-- A request that the broker does not remember. -/
theorem run_submit_of_none (hvalid : validateSynthetic request = .ok ())
    (hnone : broker.submissions.get? (request.providerId, request.idempotencyKey) = none) :
    (submit rt broker request).run EffectOp.answer st =
      match (scheduleAll rt request (scheduledBy (broker.scenarioOf request.rttId))).run
        EffectOp.answer st with
      | (.ok (), st') => (.ok (answerOf rt request (broker.scenarioOf request.rttId),
          broker.remember request (answerOf rt request (broker.scenarioOf request.rttId))), st')
      | (.error exn, st') => (.error exn, st') := by
  have hcount : ∀ result : ProviderSubmissionResult,
      MetricsRegistry.increment "railone_sandbox_submissions_total" [("provider", request.providerId),
        ("outcome", result.outcome.value),
        ("scenario", (broker.scenarioOf request.rttId).value)] = .ok () := by
    intro result
    refine increment_eq_ok (by decide) ?_
    have houtcome : result.outcome.value ≠ "" := by cases result.outcome <;> decide
    have hscenario : (broker.scenarioOf request.rttId).value ≠ "" := by
      cases broker.scenarioOf request.rttId <;> decide
    simpa using ⟨providerId_ne_empty hvalid, houtcome, hscenario⟩
  unfold submit
  simp only [hvalid, hnone, Prog.liftM_eq, Prog.ret_ok_bind, result_eq, Prog.bind_assoc, hcount,
    Prog.pure_eq]
  rw [Prog.run_bind]
  generalize (scheduleAll rt request _).run EffectOp.answer st = result
  obtain ⟨outcome, st'⟩ := result
  cases outcome <;> rfl

/-! ## What programs keep -/

/-- A program that schedules only new effects keeps the books of the store, and what is stored. -/
theorem kept_of_run {α : Type} {p : EffectCode α} (hp : p.Ops EffectOp.SchedulesFresh)
    (hst : st.Consistent) :
    (p.run EffectOp.answer st).2.Consistent ∧
      ∀ e, st.Stores e → (p.run EffectOp.answer st).2.Stores e := by
  refine hp.run (J := fun st' : InMemorySandboxEffectStore =>
    st'.Consistent ∧ ∀ e, st.Stores e → st'.Stores e) (fun o st₁ ho h₁ => ?_) ⟨hst, fun _ he => he⟩
  have hanswer : o.answer st₁ = ((o.answer st₁).1, (o.answer st₁).2) := rfl
  obtain ⟨hmoves, htick⟩ := EffectOp.moves_answer h₁.1 ho hanswer
  exact ⟨hmoves.consistent h₁.1 htick, fun e he => (h₁.2 e he).of_moves hmoves⟩

theorem ops_perform {o : EffectOp} (ho : ∀ record, o ≠ .schedule record) :
    (EffectCode.perform o).Ops EffectOp.SchedulesFresh :=
  Prog.ops_call.mpr fun record heq => absurd heq (ho record)

theorem ops_scheduleAll : (scheduleAll rt request l).Ops EffectOp.SchedulesFresh := by
  induction l with
  | nil => exact Prog.ops_pure _
  | cons p l ih =>
    unfold scheduleAll schedule
    refine Prog.Ops.bind (Prog.Ops.bind (Prog.ops_liftM _) fun payload => ?_) fun _ => ih
    refine Prog.Ops.bind (Prog.ops_liftM _) fun effectId => ?_
    refine Prog.Ops.bind (ops_perform fun _ h => by cases h) fun tick => ?_
    refine Prog.Ops.bind (Prog.ops_call.mpr ?_) fun _ => Prog.ops_pure _
    rintro _ ⟨⟩
    exact ⟨_, rfl⟩

theorem ops_submit : (submit rt broker request).Ops EffectOp.SchedulesFresh := by
  unfold submit
  refine Prog.Ops.bind (Prog.ops_liftM _) fun _ => ?_
  split
  · refine Prog.Ops.bind (Prog.ops_liftM _) fun _ => ?_
    exact Prog.Ops.bind (Prog.ops_liftM _) fun _ => Prog.ops_pure _
  · dsimp only
    rw [result_eq]
    refine Prog.Ops.bind (Prog.Ops.bind ops_scheduleAll fun _ => Prog.ops_pure _) fun _ => ?_
    exact Prog.Ops.bind (Prog.ops_liftM _) fun _ => Prog.ops_pure _

theorem ops_deliverAll {records : List ProviderEffectRecord} :
    (deliverAll records).Ops EffectOp.SchedulesFresh := by
  induction records with
  | nil => exact Prog.ops_pure _
  | cons record records ih =>
    unfold deliverAll
    refine Prog.Ops.bind (ops_perform fun _ h => by cases h) fun _ => ?_
    refine Prog.Ops.bind (Prog.ops_liftM _) fun _ => ?_
    exact Prog.Ops.bind ih fun _ => Prog.ops_pure _

theorem ops_advance {ticks : Int} : (advance ticks).Ops EffectOp.SchedulesFresh := by
  unfold advance
  exact Prog.Ops.bind (ops_perform fun _ h => by cases h) fun _ => ops_deliverAll

theorem ops_markDelivered {effectId workerId : String} :
    (markDelivered effectId workerId).Ops EffectOp.SchedulesFresh := by
  unfold markDelivered
  exact Prog.Ops.bind (ops_perform fun _ h => by cases h) fun _ => Prog.ops_pure _

theorem ops_reschedule {effectId workerId error : String} {delayTicks maxAttempts : Int} :
    (reschedule effectId workerId delayTicks error maxAttempts).Ops EffectOp.SchedulesFresh := by
  unfold reschedule
  exact Prog.Ops.bind (ops_perform fun _ h => by cases h) fun _ => Prog.ops_liftM _

end SandboxEffectBroker

/-! ## Simulations -/

/-- The first submission of a request. -/
structure FirstSubmission where
  request : ProviderExecutionRequest
  result : ProviderSubmissionResult
  scenario : EffectScenario
  tick : Int

/-- A broker over a store of effects. -/
structure Simulation where
  broker : SandboxEffectBroker
  store : InMemorySandboxEffectStore
  /-- History: the requests that have been answered, as they were for the first time. -/
  submitted : List FirstSubmission

inductive SimulationCall
  | setScenario (rttId : String) (scenario : EffectScenario)
  | submit (request : ProviderExecutionRequest)
  | advance (ticks : Int)
  /-- A new broker takes over the store. -/
  | restart
  | claimDue (workerId : String) (ticks leaseTicks limit : Int)
  | markDelivered (effectId workerId : String)
  | reschedule (effectId workerId : String) (delayTicks : Int) (error : String) (maxAttempts : Int)

namespace Simulation

/-- The start of a simulation. -/
def initial : Simulation := ⟨.empty, .empty, []⟩

/-- The answer to a submission, with the broker and the store that it leaves. -/
def answerTo (s : Simulation) (request : ProviderExecutionRequest) :
    Except Exn (ProviderSubmissionResult × SandboxEffectBroker) × InMemorySandboxEffectStore :=
  (SandboxEffectBroker.submit rt s.broker request).run EffectOp.answer s.store

/-- The history, once a request has been answered. -/
def answered (s : Simulation) (request : ProviderExecutionRequest) (result : ProviderSubmissionResult) :
    List FirstSubmission :=
  if ∃ f ∈ s.submitted, f.request = request then s.submitted
  else s.submitted ++ [⟨request, result, s.broker.scenarioOf request.rttId, s.store.tick⟩]

/-- The store, after a program. -/
def worked {α : Type} (s : Simulation) (p : EffectCode α) : Simulation :=
  { s with store := (p.run EffectOp.answer s.store).2 }

theorem broker_worked {α : Type} (s : Simulation) (p : EffectCode α) : (s.worked p).broker = s.broker :=
  rfl

/-- What a call leaves behind. -/
def next (s : Simulation) : SimulationCall → Simulation
  | .setScenario rttId scenario =>
    match s.broker.setScenario rttId scenario with
    | .ok broker => { s with broker := broker }
    | .error _ => s
  | .submit request =>
    match s.answerTo rt request with
    | (.ok (result, broker), store) => ⟨broker, store, s.answered request result⟩
    | (.error _, store) => { s with store := store }
  | .advance ticks => s.worked (SandboxEffectBroker.advance ticks)
  | .restart => { s with broker := .empty }
  | .claimDue workerId ticks leaseTicks limit =>
    s.worked (SandboxEffectBroker.claimDue workerId ticks leaseTicks limit)
  | .markDelivered effectId workerId => s.worked (SandboxEffectBroker.markDelivered effectId workerId)
  | .reschedule effectId workerId delayTicks error maxAttempts =>
    s.worked (SandboxEffectBroker.reschedule effectId workerId delayTicks error maxAttempts)

theorem next_submit (s : Simulation) (request : ProviderExecutionRequest) :
    s.next rt (.submit request) =
      match s.answerTo rt request with
      | (.ok (result, broker), store) => ⟨broker, store, s.answered request result⟩
      | (.error _, store) => { s with store := store } :=
  rfl

theorem next_setScenario (s : Simulation) (rttId : String) (scenario : EffectScenario) :
    s.next rt (.setScenario rttId scenario) =
      match s.broker.setScenario rttId scenario with
      | .ok broker => { s with broker := broker }
      | .error _ => s :=
  rfl

/-- What a call should do to what has been submitted: a request that is submitted again is answered as
the first time and changes no effect, the scenario of a submitted RTT cannot be set, and it stays. -/
def ReplaySafe (s : Simulation) (c : SimulationCall) : Prop :=
  (∀ f ∈ s.submitted,
    (s.next rt c).broker.scenarioOf f.request.rttId = s.broker.scenarioOf f.request.rttId) ∧
  match c with
  | .submit request => ∀ f ∈ s.submitted, f.request = request →
      ∃ broker, s.answerTo rt request = (.ok (f.result, broker), s.store)
  | .setScenario rttId scenario => (∃ f ∈ s.submitted, f.request.rttId = rttId) →
      ∃ exn, s.broker.setScenario rttId scenario = .error exn
  | _ => True

/-- The call finds what it needs to be safe.  A request that is submitted again is in the broker's memory,
or the broker has no memory under its key and the scenario schedules nothing or the clock stands where it
stood; an RTT whose scenario is set after its submission is named by an idempotency key in memory; and the
broker is restarted only when the submitted RTTs are under the default scenario. -/
def Remembered (s : Simulation) : SimulationCall → Prop
  | .submit request => ∀ f ∈ s.submitted, f.request = request →
      match s.broker.submissions.get? (request.providerId, request.idempotencyKey) with
      | some entry => entry.1 = request.requestSha256
      | none => SandboxEffectBroker.scheduledBy f.scenario = [] ∨ s.store.tick = f.tick
  | .setScenario rttId _ => (∃ f ∈ s.submitted, f.request.rttId = rttId) →
      ∃ e ∈ s.broker.submissions.entries, e.1.2 = rttId
  | .restart => ∀ f ∈ s.submitted, s.broker.scenarioOf f.request.rttId = .success
  | _ => True

/-- A request that the broker remembers may be submitted again. -/
theorem remembered_submit {s : Simulation} {request : ProviderExecutionRequest}
    {entry : String × ProviderSubmissionResult}
    (hentry : s.broker.submissions.get? (request.providerId, request.idempotencyKey) = some entry)
    (hsha : entry.1 = request.requestSha256) : s.Remembered (.submit request) := by
  intro f _ _
  rw [hentry]
  exact hsha

/-! ## The invariant -/

variable {rt} {s : Simulation} {f : FirstSubmission} {request : ProviderExecutionRequest}
  {R : ProviderExecutionRequest → Prop}

/-- The submission would be answered now as it was, except for the tick, and its effects are stored. -/
structure Stands (rt : Runtime) (s : Simulation) (f : FirstSubmission) : Prop where
  valid : SandboxEffectBroker.validateSynthetic f.request = .ok ()
  scenario : f.scenario = s.broker.scenarioOf f.request.rttId
  result : f.result = SandboxEffectBroker.answerOf rt f.request f.scenario
  effects : ∀ p ∈ SandboxEffectBroker.scheduledBy f.scenario, ∃ effect,
    SandboxEffectBroker.planned rt f.request p f.tick = .ok effect ∧ s.store.Stores effect

/-- What holds while every call finds what it needs: submissions stand, and what the broker remembers has
been submitted. -/
structure Invariant (rt : Runtime) (R : ProviderExecutionRequest → Prop) (s : Simulation) : Prop where
  consistent : s.store.Consistent
  requests : ∀ f ∈ s.submitted, R f.request
  stands : ∀ f ∈ s.submitted, Stands rt s f
  memory : ∀ key entry, s.broker.submissions.get? key = some entry →
    ∃ f ∈ s.submitted, key = (f.request.providerId, f.request.idempotencyKey) ∧
      entry = (f.request.requestSha256, f.result)

/-- A submission stands while its scenario and its effects stay. -/
theorem Stands.keep (h : Stands rt s f) {s' : Simulation}
    (hscenario : s'.broker.scenarioOf f.request.rttId = s.broker.scenarioOf f.request.rttId)
    (hstores : ∀ e, s.store.Stores e → s'.store.Stores e) : Stands rt s' f where
  valid := h.valid
  scenario := h.scenario.trans hscenario.symm
  result := h.result
  effects p hp := by
    obtain ⟨effect, hplanned, heffect⟩ := h.effects p hp
    exact ⟨effect, hplanned, hstores effect heffect⟩

theorem invariant_initial : Invariant rt R initial where
  consistent k e he := by
    obtain ⟨record, hget, -⟩ := InMemorySandboxEffectStore.queue_eq_some.mp he
    cases hget
  requests _ hf := absurd hf List.not_mem_nil
  stands _ hf := absurd hf List.not_mem_nil
  memory _ _ h := by cases h

/-- The invariant, when only the store has changed. -/
theorem Invariant.of_store (h : Invariant rt R s) {store : InMemorySandboxEffectStore}
    (hconsistent : store.Consistent) (hstores : ∀ e, s.store.Stores e → store.Stores e) :
    Invariant rt R { s with store := store } where
  consistent := hconsistent
  requests := h.requests
  stands f hf := (h.stands f hf).keep rfl hstores
  memory := h.memory

theorem Invariant.worked (h : Invariant rt R s) {α : Type} {p : EffectCode α}
    (hp : p.Ops EffectOp.SchedulesFresh) : Invariant rt R (s.worked p) := by
  obtain ⟨hconsistent, hstores⟩ := SandboxEffectBroker.kept_of_run hp h.consistent
  exact h.of_store hconsistent hstores

/-- With distinct digests, what the broker remembers under the digest of a request is the answer to it. -/
theorem Invariant.of_memory (h : Invariant rt R s)
    (hR : ∀ a b, R a → R b → a.requestSha256 = b.requestSha256 → a = b) (hrequest : R request)
    {key : String × String} {entry : String × ProviderSubmissionResult}
    (hentry : s.broker.submissions.get? key = some entry) (hsha : entry.1 = request.requestSha256) :
    ∃ f ∈ s.submitted, f.request = request ∧ entry.2 = f.result := by
  obtain ⟨f, hf, -, rfl⟩ := h.memory key entry hentry
  exact ⟨f, hf, hR _ _ (h.requests f hf) hrequest hsha, rfl⟩

/-- All submissions of a request were answered in the same way. -/
theorem Invariant.result_eq (h : Invariant rt R s) {g : FirstSubmission} (hf : f ∈ s.submitted)
    (hg : g ∈ s.submitted) (heq : f.request = g.request) : f.result = g.result := by
  have hstandsf := h.stands f hf
  have hstandsg := h.stands g hg
  rw [hstandsf.result, hstandsg.result, hstandsf.scenario, hstandsg.scenario, heq]

/-! ## What a submission does -/

/-- A request that may not be simulated is refused. -/
theorem answerTo_of_invalid {exn : Exn}
    (h : SandboxEffectBroker.validateSynthetic request = .error exn) :
    s.answerTo rt request = (.error exn, s.store) := by
  unfold answerTo SandboxEffectBroker.submit
  rw [h]
  rfl

/-- An answered request was in memory, or it is answered by the scenario of its RTT. -/
theorem answerTo_eq_ok {result : ProviderSubmissionResult} {broker : SandboxEffectBroker}
    {store : InMemorySandboxEffectStore} (h : s.answerTo rt request = (.ok (result, broker), store)) :
    SandboxEffectBroker.validateSynthetic request = .ok () ∧
    ((∃ entry, s.broker.submissions.get? (request.providerId, request.idempotencyKey) = some entry ∧
        entry.1 = request.requestSha256 ∧ result = entry.2 ∧ broker = s.broker ∧ store = s.store) ∨
      (SandboxEffectBroker.scheduleAll rt request
          (SandboxEffectBroker.scheduledBy (s.broker.scenarioOf request.rttId))).run EffectOp.answer
            s.store = (.ok (), store) ∧
        result = SandboxEffectBroker.answerOf rt request (s.broker.scenarioOf request.rttId) ∧
        broker = s.broker.remember request result) := by
  cases hvalid : SandboxEffectBroker.validateSynthetic request with
  | error exn =>
    rw [answerTo_of_invalid hvalid] at h
    cases h
  | ok _ =>
    refine ⟨rfl, ?_⟩
    unfold answerTo at h
    cases hget : s.broker.submissions.get? (request.providerId, request.idempotencyKey) with
    | some entry =>
      rw [SandboxEffectBroker.run_submit_of_some hvalid hget] at h
      by_cases hsha : entry.1 = request.requestSha256
      · rw [if_pos hsha] at h
        cases h
        exact .inl ⟨entry, rfl, hsha, rfl, rfl, rfl⟩
      · rw [if_neg hsha] at h
        cases h
    | none =>
      rw [SandboxEffectBroker.run_submit_of_none hvalid hget] at h
      split at h
      · next hrun =>
        cases h
        exact .inr ⟨hrun, rfl, rfl⟩
      · cases h

/-- Submissions do not touch scenarios. -/
theorem scenarioOf_next_submit (rttId : String) :
    (s.next rt (.submit request)).broker.scenarioOf rttId = s.broker.scenarioOf rttId := by
  cases hanswer : s.answerTo rt request with
  | mk outcome store =>
    simp only [next_submit, hanswer]
    cases outcome with
    | error exn => rfl
    | ok answer =>
      obtain ⟨result, broker⟩ := answer
      obtain ⟨-, ⟨entry, -, -, -, rfl, -⟩ | ⟨-, -, rfl⟩⟩ := answerTo_eq_ok hanswer <;> rfl

/-- A request that has been answered is answered again as the first time, without an effect, exactly if
the broker remembers it, or nothing is scheduled for it, or the clock stands where it stood. -/
theorem answered_again_iff (h : Invariant rt R s)
    (hR : ∀ a b, R a → R b → a.requestSha256 = b.requestSha256 → a = b) (hf : f ∈ s.submitted)
    (hrequest : f.request = request) :
    (∃ broker, s.answerTo rt request = (.ok (f.result, broker), s.store)) ↔
      match s.broker.submissions.get? (request.providerId, request.idempotencyKey) with
      | some entry => entry.1 = request.requestSha256
      | none => SandboxEffectBroker.scheduledBy f.scenario = [] ∨ s.store.tick = f.tick := by
  subst hrequest
  have hstands := h.stands f hf
  unfold answerTo
  cases hget : s.broker.submissions.get? (f.request.providerId, f.request.idempotencyKey) with
  | some entry =>
    dsimp only
    rw [SandboxEffectBroker.run_submit_of_some hstands.valid hget]
    constructor
    · rintro ⟨broker, heq⟩
      by_contra hsha
      rw [if_neg hsha] at heq
      cases heq
    · intro hsha
      obtain ⟨g, hg, heq, hresult⟩ := h.of_memory hR (h.requests f hf) hget hsha
      rw [if_pos hsha, hresult, h.result_eq hg hf heq]
      exact ⟨_, rfl⟩
  | none =>
    dsimp only
    rw [SandboxEffectBroker.run_submit_of_none hstands.valid hget, ← hstands.scenario]
    constructor
    · rintro ⟨broker, heq⟩
      by_contra hne
      rw [not_or] at hne
      obtain ⟨p, l, hl⟩ := List.exists_cons_of_ne_nil hne.1
      obtain ⟨effect, hplanned, heffect⟩ := hstands.effects p (hl ▸ List.mem_cons_self)
      rw [hl, SandboxEffectBroker.run_scheduleAll_of_tick_ne hplanned heffect hne.2] at heq
      cases heq
    · intro hor
      have hstored : ∀ p ∈ SandboxEffectBroker.scheduledBy f.scenario, ∃ effect,
          SandboxEffectBroker.planned rt f.request p s.store.tick = .ok effect ∧
            s.store.Stores effect := by
        rcases hor with hnil | htick
        · rw [hnil]
          nofun
        · rw [htick]
          exact hstands.effects
      rw [SandboxEffectBroker.run_scheduleAll_of_stored hstored, hstands.result]
      exact ⟨_, rfl⟩

/-! ## What a change of scenario does -/

variable {rttId : String} {scenario : EffectScenario}

/-- A scenario cannot be set exactly if the broker has its RTT among its idempotency keys. -/
theorem setScenario_eq_error_iff {broker : SandboxEffectBroker} :
    (∃ exn, broker.setScenario rttId scenario = .error exn) ↔
      ∃ e ∈ broker.submissions.entries, e.1.2 = rttId := by
  unfold SandboxEffectBroker.setScenario
  by_cases hany : broker.submissions.entries.any (fun e => e.1.2 == rttId)
  · rw [if_pos hany]
    rw [List.any_eq_true] at hany
    exact ⟨fun _ => by simpa using hany, fun _ => ⟨_, rfl⟩⟩
  · rw [if_neg hany]
    rw [List.any_eq_true] at hany
    exact ⟨nofun, fun h => absurd (by simpa using h) hany⟩

/-- A scenario that can be set is that of its RTT alone. -/
theorem setScenario_eq_ok {broker broker' : SandboxEffectBroker}
    (h : broker.setScenario rttId scenario = .ok broker') :
    broker'.submissions = broker.submissions ∧
      ∀ other, other ≠ rttId → broker'.scenarioOf other = broker.scenarioOf other := by
  unfold SandboxEffectBroker.setScenario at h
  split_ifs at h with hany
  cases h
  refine ⟨rfl, fun other hne => ?_⟩
  unfold SandboxEffectBroker.scenarioOf
  dsimp only
  rw [Dict.get?_set_of_ne _ _ hne]

/-- A change of scenario that finds what it needs leaves the scenarios of submitted RTTs. -/
theorem scenarioOf_next_setScenario (h : s.Remembered (.setScenario rttId scenario))
    (hf : f ∈ s.submitted) :
    (s.next rt (.setScenario rttId scenario)).broker.scenarioOf f.request.rttId =
      s.broker.scenarioOf f.request.rttId := by
  cases hset : s.broker.setScenario rttId scenario with
  | error exn => simp only [next_setScenario, hset]
  | ok broker =>
    simp only [next_setScenario, hset]
    refine (setScenario_eq_ok hset).2 _ fun heq => ?_
    obtain ⟨exn, herror⟩ : ∃ exn, s.broker.setScenario rttId scenario = .error exn :=
      setScenario_eq_error_iff.mpr (h ⟨f, hf, heq⟩)
    rw [hset] at herror
    cases herror

/-! ## Calls -/

/-- A call is safe exactly if it finds what it needs. -/
theorem replaySafe_iff (h : Invariant rt R s)
    (hR : ∀ a b, R a → R b → a.requestSha256 = b.requestSha256 → a = b) (c : SimulationCall) :
    s.ReplaySafe rt c ↔ s.Remembered c := by
  cases c with
  | setScenario rttId scenario =>
    constructor
    · rintro ⟨-, herror⟩ hsubmitted
      exact setScenario_eq_error_iff.mp (herror hsubmitted)
    · intro hremembered
      refine ⟨fun f hf => scenarioOf_next_setScenario hremembered hf, fun hsubmitted => ?_⟩
      exact setScenario_eq_error_iff.mpr (hremembered hsubmitted)
  | submit request =>
    have hscenarios : ∀ f ∈ s.submitted, (s.next rt (.submit request)).broker.scenarioOf
        f.request.rttId = s.broker.scenarioOf f.request.rttId :=
      fun f _ => scenarioOf_next_submit f.request.rttId
    constructor
    · rintro ⟨-, hanswered⟩ f hf hrequest
      exact (answered_again_iff h hR hf hrequest).mp (hanswered f hf hrequest)
    · intro hremembered
      refine ⟨hscenarios, fun f hf hrequest => ?_⟩
      exact (answered_again_iff h hR hf hrequest).mpr (hremembered f hf hrequest)
  | restart =>
    constructor
    · rintro ⟨hscenarios, -⟩ f hf
      exact (hscenarios f hf).symm
    · intro hremembered
      exact ⟨fun f hf => (hremembered f hf).symm, trivial⟩
  | advance | claimDue | markDelivered | reschedule =>
    exact ⟨fun _ => trivial, fun _ => ⟨fun f _ => congrArg (·.scenarioOf f.request.rttId)
      (broker_worked s _), trivial⟩⟩

/-- An answered submission is in the history, under its first answer. -/
theorem Invariant.mem_answered (h : Invariant rt R s) (request : ProviderExecutionRequest) :
    ∃ f ∈ s.answered request (SandboxEffectBroker.answerOf rt request (s.broker.scenarioOf request.rttId)),
      f.request = request ∧
      f.result = SandboxEffectBroker.answerOf rt request (s.broker.scenarioOf request.rttId) := by
  unfold answered
  split_ifs with hex
  · obtain ⟨f, hf, hrequest⟩ := hex
    have hstands := h.stands f hf
    refine ⟨f, hf, hrequest, ?_⟩
    rw [hstands.result, hstands.scenario, hrequest]
  · exact ⟨_, List.mem_append_right _ (List.mem_singleton_self _), rfl, rfl⟩

/-- What is in the history was there, or it is the submission that is being answered. -/
theorem of_mem_answered {result : ProviderSubmissionResult} (hf : f ∈ s.answered request result) :
    f ∈ s.submitted ∨ f = ⟨request, result, s.broker.scenarioOf request.rttId, s.store.tick⟩ := by
  unfold answered at hf
  split_ifs at hf with hex
  · exact .inl hf
  · exact (List.mem_append.mp hf).imp_right List.mem_singleton.mp

/-- What was in the history stays. -/
theorem mem_answered_of_mem {result : ProviderSubmissionResult} (hf : f ∈ s.submitted) :
    f ∈ s.answered request result := by
  unfold answered
  split_ifs with hex
  · exact hf
  · exact List.mem_append_left _ hf

/-- The invariant, when a request has been answered by its scenario. -/
theorem Invariant.answered (h : Invariant rt R s) (hrequest : R request)
    (hvalid : SandboxEffectBroker.validateSynthetic request = .ok ())
    {store : InMemorySandboxEffectStore} (hconsistent : store.Consistent)
    (hrun : (SandboxEffectBroker.scheduleAll rt request
      (SandboxEffectBroker.scheduledBy (s.broker.scenarioOf request.rttId))).run EffectOp.answer s.store =
        (.ok (), store))
    {result : ProviderSubmissionResult}
    (hresult : result = SandboxEffectBroker.answerOf rt request (s.broker.scenarioOf request.rttId)) :
    Invariant rt R ⟨s.broker.remember request result, store, s.answered request result⟩ := by
  obtain ⟨heffects, hstores⟩ := SandboxEffectBroker.scheduled_of_run hrun
  refine ⟨hconsistent, fun f hf => ?_, fun f hf => ?_, fun key entry hentry => ?_⟩
  · rcases of_mem_answered hf with hf | rfl
    · exact h.requests f hf
    · exact hrequest
  · rcases of_mem_answered hf with hf | rfl
    · exact (h.stands f hf).keep rfl hstores
    · exact ⟨hvalid, rfl, hresult, heffects⟩
  · unfold SandboxEffectBroker.remember at hentry
    dsimp only at hentry
    by_cases hkey : key = (request.providerId, request.idempotencyKey)
    · subst hkey hresult
      rw [Dict.get?_set_self] at hentry
      cases hentry
      obtain ⟨f, hf, rfl, hanswer⟩ := h.mem_answered request
      exact ⟨f, hf, rfl, by rw [hanswer]⟩
    · rw [Dict.get?_set_of_ne _ _ hkey] at hentry
      obtain ⟨f, hf, hf'⟩ := h.memory key entry hentry
      exact ⟨f, mem_answered_of_mem hf, hf'⟩

/-- A submission keeps the invariant. -/
theorem Invariant.submit (h : Invariant rt R s)
    (hR : ∀ a b, R a → R b → a.requestSha256 = b.requestSha256 → a = b) (hrequest : R request) :
    Invariant rt R (s.next rt (.submit request)) := by
  have hops : (SandboxEffectBroker.submit rt s.broker request).Ops EffectOp.SchedulesFresh :=
    SandboxEffectBroker.ops_submit
  have hkept := SandboxEffectBroker.kept_of_run hops h.consistent
  cases hanswer : s.answerTo rt request with
  | mk outcome store =>
    rw [show (SandboxEffectBroker.submit rt s.broker request).run EffectOp.answer s.store =
      (outcome, store) from hanswer] at hkept
    obtain ⟨hconsistent, hstores⟩ := hkept
    simp only [next_submit, hanswer]
    cases outcome with
    | error exn => exact h.of_store hconsistent hstores
    | ok answer =>
      obtain ⟨result, broker⟩ := answer
      obtain ⟨hvalid, ⟨entry, hentry, hsha, rfl, rfl, rfl⟩ | ⟨hrun, hresult, rfl⟩⟩ :=
        answerTo_eq_ok hanswer
      · -- the answer comes from memory, so the request has been submitted, and nothing changes
        obtain ⟨f, hf, heq, -⟩ := h.of_memory hR hrequest hentry hsha
        have hsubmitted : s.answered request entry.2 = s.submitted := if_pos ⟨f, hf, heq⟩
        dsimp only
        rw [hsubmitted]
        exact h
      · exact h.answered hrequest hvalid hconsistent hrun hresult

/-- A change of scenario that finds what it needs keeps the invariant. -/
theorem Invariant.setScenario (h : Invariant rt R s) (hc : s.Remembered (.setScenario rttId scenario)) :
    Invariant rt R (s.next rt (.setScenario rttId scenario)) := by
  have hscenarios : ∀ f ∈ s.submitted, (s.next rt (.setScenario rttId scenario)).broker.scenarioOf
      f.request.rttId = s.broker.scenarioOf f.request.rttId :=
    fun f hf => scenarioOf_next_setScenario hc hf
  cases hset : s.broker.setScenario rttId scenario with
  | error exn =>
    simp only [next_setScenario, hset]
    exact h
  | ok broker =>
    simp only [next_setScenario, hset] at hscenarios ⊢
    refine ⟨h.consistent, h.requests, fun f hf => (h.stands f hf).keep (hscenarios f hf) fun _ he => he,
      fun key entry hentry => h.memory key entry ?_⟩
    rw [← (setScenario_eq_ok hset).1]
    exact hentry

/-- A restart that finds what it needs keeps the invariant. -/
theorem Invariant.restart (h : Invariant rt R s) (hc : s.Remembered .restart) :
    Invariant rt R (s.next rt .restart) where
  consistent := h.consistent
  requests := h.requests
  stands f hf := (h.stands f hf).keep (hc f hf).symm fun _ he => he
  memory _ _ hentry := by cases hentry

/-- Calls that find what they need keep the invariant. -/
theorem Invariant.next (h : Invariant rt R s)
    (hR : ∀ a b, R a → R b → a.requestSha256 = b.requestSha256 → a = b) {c : SimulationCall}
    (hcall : ∀ request, c = .submit request → R request) (hc : s.Remembered c) :
    Invariant rt R (s.next rt c) := by
  cases c with
  | setScenario rttId scenario => exact h.setScenario hc
  | submit request => exact h.submit hR (hcall request rfl)
  | restart => exact h.restart hc
  | advance ticks => exact h.worked SandboxEffectBroker.ops_advance
  | claimDue workerId ticks leaseTicks limit =>
    exact h.worked (SandboxEffectBroker.ops_perform fun _ heq => by cases heq)
  | markDelivered effectId workerId => exact h.worked SandboxEffectBroker.ops_markDelivered
  | reschedule effectId workerId delayTicks error maxAttempts =>
    exact h.worked SandboxEffectBroker.ops_reschedule

end Simulation

/-- A simulation is safe for replays, call by call, exactly if every call finds what it needs: the memory
of the broker, or a clock and a scenario that make up for it.  Requests with equal digests are equal. -/
theorem simulation_replay_safe_iff (cs : List SimulationCall)
    (hdigest : ∀ a b, .submit a ∈ cs → .submit b ∈ cs → a.requestSha256 = b.requestSha256 → a = b) :
    Throughout (Simulation.next rt) (Simulation.ReplaySafe rt) .initial cs ↔
      Throughout (Simulation.next rt) Simulation.Remembered .initial cs := by
  refine throughout_iff (I := Simulation.Invariant rt (.submit · ∈ cs))
    (A := fun c => ∀ request, c = .submit request → .submit request ∈ cs)
    (fun s c h _ => Simulation.replaySafe_iff h hdigest c)
    (fun s c h hcall hc => h.next hdigest hcall hc) Simulation.invariant_initial ?_
  rintro _ hmem request rfl
  exact hmem

/-! ## The sample request -/

namespace Sample

/-- A request between synthetic endpoints. -/
def simulatedRequest : ProviderExecutionRequest where
  idempotencyKey := "R1IDEM-1"
  requestSha256 := String.ofList (List.replicate 64 'a')
  uttId := "UTT-1"
  rttId := "RTT-1"
  attemptNumber := 1
  providerId := "BANK-KE"
  adapterBindingRef := .str "BANK-KE@1"
  rail := .str "PESALINK"
  amountMinor := .int 150000
  currencyFrom := .str "KES"
  receiveAmountMinor := .int 150000
  currencyTo := .str "KES"
  sourceInstitutionId := .str "BANK-A"
  destinationInstitutionId := .str "BANK-B"
  payerAccountReference := "SIM-PAYER"
  beneficiaryAccountReference := "SIM-BENEFICIARY"

/-- The simulation after some calls. -/
def simulated (cs : List SimulationCall) : Simulation :=
  after (Simulation.next runtime) .initial cs

end Sample

/-- The scenario of a submitted request changes, and a request that is submitted again to a restarted
broker, one tick later, is not answered. -/
theorem simulation_replay_unsafe :
    ¬ Throughout (Simulation.next Sample.runtime) (Simulation.ReplaySafe Sample.runtime) .initial
        [.submit Sample.simulatedRequest,
          .setScenario Sample.simulatedRequest.rttId .rejectedTerminal] ∧
      ¬ Throughout (Simulation.next Sample.runtime) (Simulation.ReplaySafe Sample.runtime) .initial
        [.submit Sample.simulatedRequest, .advance 1, .restart, .submit Sample.simulatedRequest] := by
  constructor
  · rintro ⟨-, ⟨-, herror⟩, -⟩
    have hsubmitted : ∃ f ∈ (Sample.simulated [.submit Sample.simulatedRequest]).submitted,
        f.request.rttId = Sample.simulatedRequest.rttId := by decide +kernel
    have hmemory : ¬ ∃ e ∈ (Sample.simulated
        [.submit Sample.simulatedRequest]).broker.submissions.entries,
        e.1.2 = Sample.simulatedRequest.rttId := by decide +kernel
    exact hmemory (Simulation.setScenario_eq_error_iff.mp (herror hsubmitted))
  · rintro ⟨-, -, -, ⟨-, hanswered⟩, -⟩
    have hsubmitted : ∃ f ∈ (Sample.simulated
        [.submit Sample.simulatedRequest, .advance 1, .restart]).submitted,
        f.request = Sample.simulatedRequest := by decide +kernel
    have hrefused : ((Sample.simulated [.submit Sample.simulatedRequest, .advance 1, .restart]).answerTo
        Sample.runtime Sample.simulatedRequest).1.toOption.isSome = false := by decide +kernel
    obtain ⟨f, hf, hrequest⟩ := hsubmitted
    obtain ⟨broker, heq⟩ : ∃ broker, (Sample.simulated [.submit Sample.simulatedRequest, .advance 1,
        .restart]).answerTo Sample.runtime Sample.simulatedRequest = (.ok (f.result, broker), _) :=
      hanswered f hf hrequest
    rw [heq] at hrefused
    cases hrefused

/-- In the sample, a broker that is still there answers again after the clock has advanced. -/
theorem simulation_replay_safe_iff_sample :
    Throughout (Simulation.next Sample.runtime) (Simulation.ReplaySafe Sample.runtime) .initial
      [.submit Sample.simulatedRequest, .advance 1, .submit Sample.simulatedRequest] := by
  refine (simulation_replay_safe_iff Sample.runtime _ ?_).mpr ?_
  · intro a b ha hb _
    simp only [List.mem_cons, SimulationCall.submit.injEq, reduceCtorEq, List.not_mem_nil, or_false,
      false_or, or_self] at ha hb
    rw [ha, hb]
  · refine ⟨nofun, trivial, ?_, trivial⟩
    have hmemory : (Sample.simulated [.submit Sample.simulatedRequest,
        .advance 1]).broker.submissions.get? ("BANK-KE", "R1IDEM-1") =
          some (Sample.simulatedRequest.requestSha256,
            SandboxEffectBroker.accepted Sample.runtime Sample.simulatedRequest) := by decide +kernel
    exact Simulation.remembered_submit hmemory rfl

end RailOne
