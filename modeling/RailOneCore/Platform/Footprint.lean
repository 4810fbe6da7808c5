import RailOneCore.Platform.Calls

/-!
# Which parts of the world a call writes

Every call writes only a few parts of the world: `Call.parts` lists them, and `ops_body` checks the
list against the code.  A call that does not write a part leaves every invariant of that part alone,
whatever its steps are.
-/

namespace RailOne

open Concurrent

/-- The parts of the world that a call may write. -/
def Call.parts : Call → List Part
  | .issueQuote .. => [.nothing, .signed]
  | .accept .. => [.nothing, .signed, .contracts]
  | .buildPlan .. | .recordFailure .. | .recordSuccess .. | .resolveReconciliation .. =>
    [.nothing, .executions]
  | .startNext .. => [.nothing, .signed, .executions]
  | .prepare .. => [.nothing, .signed, .operations]
  | .dispatch .. => [.nothing, .signed, .operations, .invocations, .instructions]
  | .publishBatch .. => [.operations, .published]

section Ops

variable {d : Deployment} {P : Op → Prop}

theorem ops_map {α β : Type} {p : Code α} (f : α → β) (hp : p.Ops P) : (f <$> p).Ops P :=
  Prog.Ops.bind hp fun _ => Prog.ops_ret _

theorem ops_issueQuote {terms : QuoteTerms} {keyId : String} {issuedAt expiresAt : Datetime} :
    (QuoteService.issueQuote d terms keyId issuedAt expiresAt).Ops
      fun o => o.part = .nothing ∨ o.part = .signed := by
  have hvalidate : (QuoteService.validateEndpoints d terms).Ops
      fun o => o.part = .nothing ∨ o.part = .signed := by
    unfold QuoteService.validateEndpoints
    split
    · exact Prog.ops_ret _
    · exact Prog.Ops.bind (ops_call.mpr (.inl rfl)) fun _ => ops_call.mpr (.inl rfl)
  unfold QuoteService.issueQuote
  repeat' first
    | with_reducible exact Prog.ops_pure _
    | with_reducible exact Prog.ops_liftM _
    | with_reducible refine Prog.Ops.bind ?_ fun _ => ?_
    | exact hvalidate
    | ((with_reducible refine ops_sign.mpr ?_); exact (.inr rfl))

theorem ops_accept {command : QuoteAcceptanceCommand} {at_ : Datetime} :
    (QuoteAcceptanceService.accept d command at_).Ops
      fun o => o.part = .nothing ∨ o.part = .signed ∨ o.part = .contracts := by
  unfold QuoteAcceptanceService.accept
  repeat' first
    | with_reducible exact Prog.ops_pure _
    | with_reducible exact Prog.ops_liftM _
    | with_reducible refine Prog.Ops.bind ?_ fun _ => ?_
    | exact ops_call.mpr (.inl rfl)
  next existing =>
  cases existing with
  | some existing => exact Prog.ops_ret _
  | none =>
    dsimp only
    unfold QuoteAcceptanceService.acceptNew
    repeat' first
      | with_reducible exact Prog.ops_pure _
      | with_reducible exact Prog.ops_liftM _
      | with_reducible refine Prog.Ops.bind ?_ fun _ => ?_
      | ((with_reducible refine ops_requireValid ?_); exact (.inl rfl))
      | ((with_reducible refine ops_sign.mpr ?_); exact (.inr (.inl rfl)))
      | exact ops_call.mpr (.inr (.inr rfl))

theorem ops_buildPlan {uttId : String} {candidates : List RouteCandidate} {at_ : Datetime} :
    (ExecutionPlanningService.buildPlan d uttId candidates at_).Ops
      fun o => o.part = .nothing ∨ o.part = .executions := by
  unfold ExecutionPlanningService.buildPlan Code.createPlan
  repeat' first
    | with_reducible exact Prog.ops_pure _
    | with_reducible exact Prog.ops_liftM _
    | with_reducible refine Prog.Ops.bind ?_ fun _ => ?_
    | ((with_reducible refine ops_requireValid ?_); exact (.inl rfl))
    | ((with_reducible refine ops_requireUtt.mpr ?_); exact (.inl rfl))
    | exact ops_call.mpr (.inr rfl)

theorem ops_startNext {uttId : String} {at_ : Datetime} :
    (RttAttemptService.startNext d uttId at_).Ops
      fun o => o.part = .nothing ∨ o.part = .signed ∨ o.part = .executions := by
  unfold RttAttemptService.startNext Code.commitStart
  repeat' first
    | with_reducible exact Prog.ops_pure _
    | with_reducible exact Prog.ops_liftM _
    | with_reducible refine Prog.Ops.bind ?_ fun _ => ?_
    | ((with_reducible refine ops_requireValid ?_); exact (.inl rfl))
    | ((with_reducible refine ops_requireUtt.mpr ?_); exact (.inl rfl))
    | ((with_reducible refine ops_sign.mpr ?_); exact (.inr (.inl rfl)))
    | exact RttAttemptService.ops_validateEndpoints.mono fun _ h => .inl h
    | exact ops_call.mpr (.inl rfl)
    | exact ops_call.mpr (.inr (.inr rfl))

theorem ops_recordFailure {rttId code : String} {disposition : FailureDisposition} {cost : Int}
    {at_ : Datetime} :
    (RttAttemptService.recordFailure d rttId code disposition cost at_).Ops
      fun o => o.part = .nothing ∨ o.part = .executions := by
  unfold RttAttemptService.recordFailure
  repeat' first
    | with_reducible exact Prog.ops_pure _
    | with_reducible exact Prog.ops_liftM _
    | with_reducible refine Prog.Ops.bind ?_ fun _ => ?_
    | exact ops_call.mpr (.inl rfl)
    | exact ops_call.mpr (.inr rfl)

theorem ops_recordSuccess {rttId : String} {cost : Int} {at_ : Datetime} :
    (RttAttemptService.recordSuccess rttId cost at_).Ops
      fun o => o.part = .nothing ∨ o.part = .executions := by
  unfold RttAttemptService.recordSuccess
  repeat' first
    | with_reducible exact Prog.ops_pure _
    | with_reducible exact Prog.ops_liftM _
    | with_reducible refine Prog.Ops.bind ?_ fun _ => ?_
    | exact ops_call.mpr (.inl rfl)
    | exact ops_call.mpr (.inr rfl)

theorem ops_resolveReconciliation {rttId : String} {succeeded : Bool} {cost : Int}
    {code : Option String} {disposition : FailureDisposition} {at_ : Datetime} :
    (RttAttemptService.resolveReconciliation d rttId succeeded cost code disposition at_).Ops
      fun o => o.part = .nothing ∨ o.part = .executions := by
  unfold RttAttemptService.resolveReconciliation
  repeat' first
    | with_reducible exact Prog.ops_pure _
    | with_reducible exact Prog.ops_liftM _
    | with_reducible refine Prog.Ops.bind ?_ fun _ => ?_
    | exact ops_call.mpr (.inl rfl)
    | exact ops_call.mpr (.inr rfl)

theorem ops_event {s : ProviderSubmissionRecord} {idempotent : Bool} {at_ : Instant} :
    (ProviderSubmissionCoordinator.event d s idempotent at_).Ops fun o => o.part = .signed := by
  unfold ProviderSubmissionCoordinator.event
  exact Prog.Ops.bind (Prog.ops_ret _) fun _ => Prog.Ops.bind (ops_sign.mpr rfl) fun _ =>
    Prog.ops_ret _

theorem ops_prepare {rttId : String} {at_ : Datetime} :
    (ProviderSubmissionCoordinator.prepare d rttId at_).Ops
      fun o => o.part = .nothing ∨ o.part = .signed ∨ o.part = .operations := by
  unfold ProviderSubmissionCoordinator.prepare
  repeat' first
    | with_reducible exact Prog.ops_pure _
    | with_reducible exact Prog.ops_liftM _
    | with_reducible refine Prog.Ops.bind ?_ fun _ => ?_
    | ((with_reducible refine ops_requireValid ?_); exact (.inl rfl))
    | ((with_reducible refine ops_requireUtt.mpr ?_); exact (.inl rfl))
    | ((with_reducible refine ops_event.mono ?_); exact fun _ h => .inr (.inl h))
    | exact ops_call.mpr (.inl rfl)
    | exact ops_call.mpr (.inr (.inr rfl))

theorem ops_submit {adapter : ProviderAdapter} {request : ProviderExecutionRequest} :
    (ProviderSubmissionCoordinator.submit adapter request).Ops
      fun o => o.part = .nothing ∨ o.part = .invocations ∨ o.part = .instructions := by
  unfold ProviderSubmissionCoordinator.submit
  refine Prog.Ops.bind (ops_call.mpr (.inr (.inl rfl))) fun _ => ?_
  cases adapter with
  | plain => exact ops_call.mpr (Or.inl rfl)
  | bridge =>
    dsimp only
    unfold ProviderSubmissionCoordinator.bridgeSubmit
    repeat' first
      | with_reducible exact Prog.ops_pure _
      | with_reducible exact Prog.ops_liftM _
      | with_reducible refine Prog.Ops.bind ?_ fun _ => ?_
      | exact ops_call.mpr (.inl rfl)
      | exact ops_call.mpr (.inr (.inr rfl))

theorem ops_complete {record : ProviderSubmissionRecord} {result : ProviderSubmissionResult}
    {at_ : Instant} :
    (ProviderSubmissionCoordinator.complete d record result at_).Ops
      fun o => o.part = .signed ∨ o.part = .operations := by
  unfold ProviderSubmissionCoordinator.complete
  repeat' first
    | with_reducible exact Prog.ops_pure _
    | with_reducible exact Prog.ops_liftM _
    | with_reducible refine Prog.Ops.bind ?_ fun _ => ?_
    | ((with_reducible refine ops_event.mono ?_); exact fun _ h => .inl h)
    | exact ops_call.mpr (.inr rfl)

/-- The operations of the coordinator while it dispatches. -/
def dispatchOp (o : Op) : Prop :=
  o.part = .nothing ∨ o.part = .signed ∨ o.part = .operations ∨ o.part = .invocations ∨
    o.part = .instructions

theorem ops_send {record : ProviderSubmissionRecord} {request : ProviderExecutionRequest}
    {adapter : ProviderAdapter} {at_ : Instant} :
    (ProviderSubmissionCoordinator.send d record request adapter at_).Ops dispatchOp := by
  have hsubmit : (ProviderSubmissionCoordinator.submit adapter request).outcome.Ops dispatchOp := by
    refine Prog.Ops.outcome (ops_submit.mono ?_)
    rintro o (h | h | h) <;> simp [dispatchOp, h]
  have hevent : ∀ s idempotent,
      (ProviderSubmissionCoordinator.event d s idempotent at_).Ops dispatchOp :=
    fun _ _ => ops_event.mono fun _ h => Or.inr (Or.inl h)
  have hcomplete : ∀ s result,
      (ProviderSubmissionCoordinator.complete d s result at_).Ops dispatchOp :=
    fun _ _ => ops_complete.mono fun o h => by rcases h with h | h <;> simp [dispatchOp, h]
  unfold ProviderSubmissionCoordinator.send
  repeat' first
    | with_reducible refine Prog.Ops.bind ?_ fun _ => ?_
    | with_reducible exact hevent _ _
    | with_reducible exact hsubmit
    | with_reducible exact hcomplete _ _
    | exact ops_call.mpr (Or.inr (Or.inr (Or.inl rfl)))

theorem ops_dispatch {rttId : String} {adapter : ProviderAdapter} {at_ : Datetime} :
    (ProviderSubmissionCoordinator.dispatch d rttId adapter at_).Ops dispatchOp := by
  have hprepare : ∀ at_, (ProviderSubmissionCoordinator.prepare d rttId at_).Ops dispatchOp := by
    refine fun at_ => ops_prepare.mono ?_
    rintro o (h | h | h) <;> simp [dispatchOp, h]
  have hcomplete : ∀ s result instant,
      (ProviderSubmissionCoordinator.complete d s result instant).Ops dispatchOp :=
    fun _ _ _ => ops_complete.mono fun o h => by rcases h with h | h <;> simp [dispatchOp, h]
  unfold ProviderSubmissionCoordinator.dispatch
  repeat' first
    | with_reducible exact Prog.ops_pure _
    | with_reducible exact Prog.ops_liftM _
    | with_reducible refine Prog.Ops.bind ?_ fun _ => ?_
    | with_reducible exact hprepare _
    | with_reducible exact ops_send
    | with_reducible exact hcomplete _ _ _
    | split_ifs

theorem ops_publishBatch {relay : OutboxRelay} {limit : Int} {at_ : Datetime} :
    (relay.publishBatch limit at_).Ops fun o => o.part = .operations ∨ o.part = .published := by
  have hone : ∀ instant row, (relay.publishOne instant row).Ops
      fun o => o.part = .operations ∨ o.part = .published := by
    intro instant row
    unfold OutboxRelay.publishOne
    refine Prog.Ops.bind (Prog.Ops.outcome (ops_call.mpr (.inr rfl))) fun sent => ?_
    cases sent <;> exact ops_call.mpr (.inl rfl)
  have hall : ∀ instant rows, (relay.publishAll instant rows).Ops
      fun o => o.part = .operations ∨ o.part = .published := by
    intro instant rows
    induction rows with
    | nil => exact Prog.ops_ret _
    | cons row rows ih =>
      exact Prog.Ops.bind (hone instant row) fun _ => Prog.Ops.bind ih fun _ => Prog.ops_ret _
  unfold OutboxRelay.publishBatch
  repeat' first
    | with_reducible exact Prog.ops_liftM _
    | with_reducible exact hall _ _
    | with_reducible refine Prog.Ops.bind ?_ fun _ => ?_
    | exact ops_call.mpr (.inl rfl)

end Ops

/-- A call writes only its parts of the world. -/
theorem ops_body (d : Deployment) (c : Call) : (c.body d).Ops fun o => o.part ∈ c.parts := by
  cases c <;> refine ops_map _ ?_
  case issueQuote => exact ops_issueQuote.mono fun o h => by simpa [Call.parts] using h
  case accept => exact ops_accept.mono fun o h => by simpa [Call.parts] using h
  case buildPlan => exact ops_buildPlan.mono fun o h => by simpa [Call.parts] using h
  case startNext => exact ops_startNext.mono fun o h => by simpa [Call.parts] using h
  case recordFailure => exact ops_recordFailure.mono fun o h => by simpa [Call.parts] using h
  case recordSuccess => exact ops_recordSuccess.mono fun o h => by simpa [Call.parts] using h
  case resolveReconciliation =>
    exact ops_resolveReconciliation.mono fun o h => by simpa [Call.parts] using h
  case prepare => exact ops_prepare.mono fun o h => by simpa [Call.parts] using h
  case dispatch => exact ops_dispatch.mono fun o h => by simpa [Call.parts, dispatchOp] using h
  case publishBatch => exact ops_publishBatch.mono fun o h => by simpa [Call.parts] using h

/-- A call leaves a part alone that it does not write. -/
theorem ops_body_ne (d : Deployment) {c : Call} {part : Part} (h : part ∉ c.parts) :
    (c.body d).Ops fun o => o.part ≠ part := by
  refine (ops_body d c).mono (Q := fun o => o.part ≠ part) fun o ho heq => h ?_
  rwa [← heq]

end RailOne
