import RailOneCore.Execution.Identifiers
import RailOneCore.Operations.Completion
import RailOneCore.Sandbox.Providers

/-!
# Simulated settlements meet the callback processor

The simulator reports what it has settled, and `MpesaCallbackProcessor` checks the report against the
submission that the coordinator has stored.  Both derive the references in the same way.  The amount they
do not: the simulator reports whole units, rounded down, and the processor multiplies them by a hundred.
-/

namespace RailOne

open Concurrent Ordered CanonicalJson

/-! ## Library functions -/

/-- What a program answers, and the world that it leaves. -/
abbrev Code.executed {α : Type} (d : Deployment) (oracle : (o : Op) → o.Resp) (p : Code α) (w : World) :
    Except Exn α × World := p.run (fun o w => w.answer d.rt oracle o) w

variable {d : Deployment} {oracle : (o : Op) → o.Resp} {w : World} {request : ProviderExecutionRequest}
  {submission : ProviderSubmissionRecord}

namespace MpesaCallbackProcessor

/-! ## Correlation -/

/-- The dispatch of a request for M-PESA is stored with the answer of the simulator, and no other submission
carries its reference. -/
structure Correlated (rt : Runtime) (request : ProviderExecutionRequest)
    (submission : ProviderSubmissionRecord) (st : OperationsStore) : Prop where
  provider : request.providerId = "MPESA-KE"
  stored : st.submissionsByRtt.get? request.rttId = some submission
  rttId : submission.rttId = request.rttId
  uttId : submission.uttId = request.uttId
  providerId : submission.providerId = request.providerId
  records : submission.Records (SandboxEffectBroker.accepted rt request)
  alone : ∀ rttId other, st.submissionsByRtt.get? rttId = some other → other.providerId = "MPESA-KE" →
    other.externalReference = some (SandboxEffectBroker.externalReference rt request) →
      rttId = request.rttId

namespace Correlated

variable {rt : Runtime} {st : OperationsStore}

theorem find (h : Correlated rt request submission st) :
    st.findByExternalReference "MPESA-KE" (SandboxEffectBroker.externalReference rt request) =
      some submission := by
  have hreference : submission.externalReference =
      some (SandboxEffectBroker.externalReference rt request) := h.records.externalReference
  cases hfind : st.findByExternalReference "MPESA-KE"
      (SandboxEffectBroker.externalReference rt request) with
  | none =>
    have hnone := List.find?_eq_none.mp hfind submission (Dict.mem_values.mpr ⟨_, h.stored⟩)
    simp [h.providerId, h.provider, hreference] at hnone
  | some other =>
    obtain ⟨⟨rttId, hother⟩, hprovider, hexternal⟩ :=
      OperationsStore.findByExternalReference_eq_some hfind
    have hrtt := h.alone rttId other hother hprovider hexternal
    rw [hrtt, h.stored] at hother
    exact hother.symm

/-- The context of the submission, sorted, with values that fit. -/
theorem context (h : Correlated rt request submission st) :
    submission.providerContext = [("amount_minor", rt.str request.amountMinor),
      ("originator_conversation_id", SandboxEffectBroker.originatorReference rt request)] ∧
      (rt.str request.amountMinor).length ≤ 256 := by
  have hcontext := h.records.context
  have hfields := (checkProviderContext_eq_ok.mp ⟨_, hcontext⟩).2.1
  refine ⟨?_, (hfields ("amount_minor", rt.str request.amountMinor) (by
    simp [SandboxEffectBroker.accepted])).2.2⟩
  unfold checkProviderContext at hcontext
  split_ifs at hcontext
  rw [← Except.ok.inj hcontext]
  simp [SandboxEffectBroker.accepted, List.insertionSort, List.orderedInsert]

end Correlated

/-- The attempt is in flight: it has no outcome yet, or it is parked, and its plan points to it. -/
structure InFlight (st : ExecutionStore) (attempt : RttAttemptRecord) (plan : ExecutionPlan) : Prop where
  consistent : st.Consistent
  named : attempt.rttId ≠ ""
  storedAttempt : st.attempts.get? attempt.rttId = some attempt
  storedPlan : st.plans.get? attempt.planId = some plan
  current : plan.currentRttId = some attempt.rttId
  awaits : attempt.state = .created ∨
    (attempt.state = .reconciliationRequired ∧ plan.status = .reconciliationRequired)

variable {attempt : RttAttemptRecord} {plan : ExecutionPlan}

/-- The store after the success of an attempt. -/
def succeeded (st : ExecutionStore) (attempt : RttAttemptRecord) (plan : ExecutionPlan)
    (instant : Instant) : ExecutionStore :=
  st.put (plan.afterSuccess attempt.rttId attempt.routeId 0 instant) (attempt.afterSuccess 0 instant)

/-- The store after the timeout of an attempt. -/
def parked (d : Deployment) (st : ExecutionStore) (attempt : RttAttemptRecord) (plan : ExecutionPlan)
    (instant : Instant) : ExecutionStore :=
  st.put (plan.afterFailure attempt.rttId attempt.routeId (d.rt.upper "MPESA_CALLBACK_TIMEOUT")
    .reconciliationRequired 0 instant)
    (attempt.afterFailure (d.rt.upper "MPESA_CALLBACK_TIMEOUT") .reconciliationRequired 0 instant)

theorem InFlight.trimmed {st : ExecutionStore} (h : InFlight st attempt plan) :
    strip attempt.rttId = attempt.rttId := (h.consistent.attemptKey h.storedAttempt).2

/-- The identifier of an attempt passes as a text. -/
theorem InFlight.requireText {st : ExecutionStore} (h : InFlight st attempt plan) :
    requireText "rtt_id" attempt.rttId = .ok attempt.rttId :=
  requireText_eq_ok.mpr ⟨h.trimmed.symm, by rw [h.trimmed]; exact h.named⟩

/-- A parked attempt is still in flight. -/
theorem InFlight.parked {st : ExecutionStore} (h : InFlight st attempt plan) (instant : Instant) :
    InFlight (parked d st attempt plan instant)
      (attempt.afterFailure (d.rt.upper "MPESA_CALLBACK_TIMEOUT") .reconciliationRequired 0 instant)
      (plan.afterFailure attempt.rttId attempt.routeId (d.rt.upper "MPESA_CALLBACK_TIMEOUT")
        .reconciliationRequired 0 instant) := by
  have hplanId := h.consistent.planKey h.storedPlan
  have hlive : plan.status.isTerminal = false := by
    by_contra hterminal
    rw [Bool.not_eq_false] at hterminal
    have hnone := (h.consistent.agrees h.storedPlan).terminal hterminal
    rw [h.current] at hnone
    cases hnone
  have heffect : ExecutionEffect .bare (.recordFailure attempt.rttId .reconciliationRequired) st
      (MpesaCallbackProcessor.parked d st attempt plan instant) := by
    refine .closed plan _ attempt _ rfl hlive ?_ ⟨rfl, rfl, rfl, rfl, rfl⟩ rfl rfl h.storedAttempt
      hplanId.symm h.current ?_ (.parked attempt.rttId rfl h.trimmed rfl rfl) ?_ ?_ nofun
    · rw [hplanId]
      exact h.storedPlan
    · exact ⟨rfl, rfl, rfl, rfl, rfl, rfl⟩
    · rintro c ⟨⟩
      exact ⟨_, rfl⟩
    · rintro c disposition ⟨⟩
      exact h.trimmed
  refine ⟨heffect.consistent h.consistent, h.named, ?_, ?_, rfl, .inr ⟨rfl, rfl⟩⟩
  · exact Dict.get?_set_self _ _ _
  · change (st.plans.set plan.planId _).get? attempt.planId = _
    rw [← hplanId]
    exact Dict.get?_set_self _ _ _

/-- A callback as it is recorded when it comes in. -/
def received (callbackType : CallbackType) (n : NormalizedCallback) (payloadHash : String)
    (instant : Instant) : CallbackInboxRecord where
  providerId := providerId
  providerEventId := eventIdOf callbackType n.conversationId
  payloadSha256 := payloadHash
  normalizedPayload := n.toFields
  signatureValid := true
  state := .received
  receivedAt := instant
  appliedAt := none

section Deliveries

variable {secret : ByteArray} {effect : ScheduledProviderEffect} {offset tick : Int} {instant : Instant}

end Deliveries

end MpesaCallbackProcessor

namespace Sample

/-- The request of a sample payment. -/
def paymentRequest (amount : Int) (rttId idempotencyKey requestSha256 : String) :
    ProviderExecutionRequest :=
  { simulatedRequest with
    idempotencyKey, requestSha256, rttId
    providerId := "MPESA-KE"
    adapterBindingRef := .str "MPESA@1"
    rail := .str "MOBILE_MONEY"
    amountMinor := .int amount
    receiveAmountMinor := .int amount
    payerAccountReference := "SIM-ACCOUNT"
    beneficiaryAccountReference := "SIM-ACCOUNT" }

end Sample

end RailOne
