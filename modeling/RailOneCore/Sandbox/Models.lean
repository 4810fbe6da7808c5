import RailOneCore.Contracts.Models
import RailOneCore.Library.Leases

/-!
# Simulated provider effects

The sandbox simulates what a provider does after it has accepted an instruction: effects are scheduled
for a tick of a logical clock and handed to a consumer by workers, under leases.
-/

namespace RailOne

/-- What the simulated provider does with an instruction. -/
inductive EffectScenario
  | success | rejectedRetryable | rejectedTerminal | unknownAfterSend | timeoutThenSuccess
  deriving DecidableEq, Repr

def EffectScenario.value : EffectScenario → String
  | .success => "SUCCESS"
  | .rejectedRetryable => "REJECTED_RETRYABLE"
  | .rejectedTerminal => "REJECTED_TERMINAL"
  | .unknownAfterSend => "UNKNOWN_AFTER_SEND"
  | .timeoutThenSuccess => "TIMEOUT_THEN_SUCCESS"

inductive EffectDeliveryState
  | pending | inFlight | delivered | deadLetter
  deriving DecidableEq, Repr

/-- An effect that is due at a tick. -/
structure ScheduledProviderEffect where
  effectId : String
  providerId : String
  rttId : String
  externalReference : String
  effectType : String
  providerCode : String
  dueTick : Int
  payload : ByteArray
  deriving DecidableEq

/-- An effect with the bookkeeping of its delivery. -/
structure ProviderEffectRecord where
  effect : ScheduledProviderEffect
  availableTick : Int
  state : EffectDeliveryState := .pending
  deliveryAttempts : ℕ := 0
  leaseOwner : Option String := none
  leaseUntilTick : Option Int := none
  lastError : Option String := none
  deliveredAtTick : Option Int := none
  version : ℕ := 1
  deriving DecidableEq

/-- The record under which the broker schedules an effect. -/
def ProviderEffectRecord.scheduled (effect : ScheduledProviderEffect) : ProviderEffectRecord :=
  { effect := effect, availableTick := effect.dueTick }

/-- `MetricsRegistry.increment`, as far as it may raise.  The counters are read by no service. -/
def MetricsRegistry.increment (name : String) (labels : List (String × String)) : Except Exn Unit :=
  if name = "" ∨ labels.any (fun label => label.1 == "" || label.2 == "") then
    .error ⟨.valueError, "metric name and labels must be non-empty"⟩
  else .ok ()

/-! ## Effects as items of a queue -/

/-- Where the record stands as an entry of a queue. -/
def EffectDeliveryState.phase : EffectDeliveryState → Leases.Phase
  | .pending => .waiting
  | .inFlight => .inFlight
  | .delivered => .done
  | .deadLetter => .abandoned

/-- The record as an entry of a queue. -/
def ProviderEffectRecord.entry (record : ProviderEffectRecord) :
    Leases.Entry ScheduledProviderEffect String Int where
  item := record.effect
  phase := record.state.phase
  available := record.availableTick
  owner := record.leaseOwner
  until_ := record.leaseUntilTick

@[simp] theorem EffectDeliveryState.phase_eq_inFlight {s : EffectDeliveryState} :
    s.phase = .inFlight ↔ s = .inFlight := by
  cases s <;> simp [phase]

@[simp] theorem EffectDeliveryState.phase_eq_waiting {s : EffectDeliveryState} :
    s.phase = .waiting ↔ s = .pending := by
  cases s <;> simp [phase]

@[simp] theorem EffectDeliveryState.phase_eq_done {s : EffectDeliveryState} :
    s.phase = .done ↔ s = .delivered := by
  cases s <;> simp [phase]

@[simp] theorem EffectDeliveryState.phase_eq_abandoned {s : EffectDeliveryState} :
    s.phase = .abandoned ↔ s = .deadLetter := by
  cases s <;> simp [phase]

/-- What the broker schedules is new to the queue. -/
theorem ProviderEffectRecord.fresh_scheduled (effect : ScheduledProviderEffect) :
    (scheduled effect).entry.Fresh ScheduledProviderEffect.dueTick :=
  ⟨rfl, rfl, rfl, rfl⟩

end RailOne
