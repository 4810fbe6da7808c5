import RailOneCore.Sandbox.Effects

/-!
# Workers of simulated effects

`run_once` of a `SandboxEffectWorker` claims the effects that are due, hands each to the consumer, and
then acknowledges it or, if the consumer has raised, reschedules it.  Any number of workers act on one
store, while the broker keeps scheduling effects.  The claims of all workers advance one clock, so a
worker may lose its leases between any two of its steps.
-/

namespace RailOne

open Concurrent Ordered

/-- `SandboxEffectWorker`; its constructor checks the delay of retries. -/
structure SandboxEffectWorker where
  workerId : String := "sandbox-effect-worker"
  retryDelayTicks : Int := 1
  leaseTicks : Int := 2
  maxAttempts : Int := 5
  retryDelay_policy : 1 ≤ retryDelayTicks ∧ retryDelayTicks ≤ 100

namespace SandboxEffectWorker

variable (worker : SandboxEffectWorker)

/-- The labels of the worker's metrics. -/
def labels (effect : ScheduledProviderEffect) : List (String × String) :=
  [("provider", effect.providerId), ("effect_type", effect.effectType)]

/-- The body of the loop of `run_once`; whether the effect has been applied. -/
def applyEffect (effect : ScheduledProviderEffect) : EffectCode Bool := do
  let outcome ← (EffectCode.apply effect).outcome
  match outcome with
  | .error exn =>
    SandboxEffectBroker.reschedule effect.effectId worker.workerId worker.retryDelayTicks
      (exn.className ++ ": " ++ exn.message) worker.maxAttempts
    MetricsRegistry.increment "railone_sandbox_worker_failures_total" (labels effect)
    return false
  | .ok _ =>
    SandboxEffectBroker.markDelivered effect.effectId worker.workerId
    MetricsRegistry.increment "railone_sandbox_worker_applied_total" (labels effect)
    return true

/-- The loop of `run_once` over the claimed records. -/
def applyAll : List ProviderEffectRecord → EffectCode (List String)
  | [] => return []
  | record :: records => do
    let applied ← worker.applyEffect record.effect
    let rest ← applyAll records
    return if applied then record.effect.effectId :: rest else rest

/-- `run_once`. -/
def runOnce : EffectCode (List String) := do
  let records ← SandboxEffectBroker.claimDue worker.workerId 1 worker.leaseTicks 100
  worker.applyAll records

end SandboxEffectWorker

/-- The calls: a worker runs once, or the broker schedules an effect. -/
inductive EffectCall
  | runOnce (worker : SandboxEffectWorker)
  | schedule (effect : ScheduledProviderEffect)

def EffectCall.body : EffectCall → EffectCode (List String)
  | .runOnce worker => worker.runOnce
  | .schedule effect => do
    let _ ← EffectCode.schedule (.scheduled effect)
    return []

/-- Any number of workers, and the broker, over one store. -/
def effectSystem : System EffectOp.Resp EffectCall Exn (List String) EffectWorld where
  body := EffectCall.body
  sem _ := EffectWorld.sem

end RailOne
