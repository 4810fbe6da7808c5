import RailOneCore.Crypto.SignatureService

/-!
# Execution plans and route attempts

The immutable records of the planner: route candidates with their telemetry, ranked routes, plans,
failures and RTT attempts.
-/

namespace RailOne

/-! ## Enumerations -/

inductive LinkStatus
  | up | degraded | down
  deriving DecidableEq, Repr

def LinkStatus.value : LinkStatus → String
  | .up => "UP"
  | .degraded => "DEGRADED"
  | .down => "DOWN"

inductive PlanStatus
  | active | reconciliationRequired | failed | exhausted | finalized
  deriving DecidableEq, Repr

def PlanStatus.value : PlanStatus → String
  | .active => "ACTIVE"
  | .reconciliationRequired => "RECONCILIATION_REQUIRED"
  | .failed => "FAILED"
  | .exhausted => "EXHAUSTED"
  | .finalized => "FINALIZED"

/-- No operation leaves these statuses. -/
def PlanStatus.isTerminal : PlanStatus → Bool
  | .failed | .exhausted | .finalized => true
  | .active | .reconciliationRequired => false

inductive AttemptState
  | created | failed | succeeded | reconciliationRequired
  deriving DecidableEq, Repr

/-- The attempt has no definite outcome yet. -/
def AttemptState.isOpen : AttemptState → Bool
  | .created | .reconciliationRequired => true
  | .failed | .succeeded => false

inductive FailureDisposition
  | retryable | terminal | reconciliationRequired
  deriving DecidableEq, Repr

/-! ## Routes -/

/-- `require_bps`. -/
def requireBps (name : String) (value : Int) : Except Exn Int :=
  if 0 ≤ value ∧ value ≤ 10000 then .ok value
  else .error ⟨.valueError, name ++ " must be between 0 and 10000"⟩

/-- A route that telemetry offers. -/
structure RouteCandidate where
  routeId : String
  sourceInstitutionId : String
  destinationInstitutionId : String
  rail : String
  provider : String
  adapter : String
  currencyFrom : String
  currencyTo : String
  minAmountMinor : Int
  maxAmountMinor : Int
  latencyMs : Int
  congestionBps : Int
  liquidityCapacityMinor : Int
  throughputHeadroomBps : Int
  speedBps : Int
  estimatedCostMinor : Int
  linkStatus : LinkStatus
  telemetryObservedAt : Datetime
  telemetryExpiresAt : Datetime
  deriving DecidableEq, Repr

namespace RouteCandidate

/-- `RouteCandidate.normalized`: the checks; the candidate itself is returned unchanged. -/
def normalized (c : RouteCandidate) : Except Exn Unit := do
  let _ ← requireText "route_id" c.routeId
  let _ ← requireText "source_institution_id" c.sourceInstitutionId
  let _ ← requireText "destination_institution_id" c.destinationInstitutionId
  let _ ← requireText "rail" c.rail
  let _ ← requireText "provider" c.provider
  let _ ← requireText "adapter" c.adapter
  let _ ← requireText "currency_from" c.currencyFrom
  let _ ← requireText "currency_to" c.currencyTo
  let minimum ← requireMinorUnits "min_amount_minor" c.minAmountMinor true
  let maximum ← requireMinorUnits "max_amount_minor" c.maxAmountMinor false
  if maximum < minimum then
    throw ⟨.valueError, "min_amount_minor cannot exceed max_amount_minor"⟩
  let _ ← requireMinorUnits "latency_ms" c.latencyMs true
  let _ ← requireBps "congestion_bps" c.congestionBps
  let _ ← requireMinorUnits "liquidity_capacity_minor" c.liquidityCapacityMinor true
  let _ ← requireBps "throughput_headroom_bps" c.throughputHeadroomBps
  let _ ← requireBps "speed_bps" c.speedBps
  let _ ← requireMinorUnits "estimated_cost_minor" c.estimatedCostMinor true
  let observed ← requireAware "telemetry_observed_at" c.telemetryObservedAt
  let expires ← requireAware "telemetry_expires_at" c.telemetryExpiresAt
  if expires ≤ observed then
    throw ⟨.valueError, "telemetry expiry must be after observation"⟩

/-- `RouteCandidate.to_payload`. -/
def toPayload (rt : Runtime) (c : RouteCandidate) : Except Exn Fields := do
  c.normalized
  let observed ← requireAware "telemetry_observed_at" c.telemetryObservedAt
  let expires ← requireAware "telemetry_expires_at" c.telemetryExpiresAt
  return [("route_id", .str c.routeId), ("source_institution_id", .str c.sourceInstitutionId),
    ("destination_institution_id", .str c.destinationInstitutionId), ("rail", .str c.rail),
    ("provider", .str c.provider), ("adapter", .str c.adapter),
    ("currency_from", .str (rt.upper c.currencyFrom)),
    ("currency_to", .str (rt.upper c.currencyTo)), ("min_amount_minor", .int c.minAmountMinor),
    ("max_amount_minor", .int c.maxAmountMinor), ("latency_ms", .int c.latencyMs),
    ("congestion_bps", .int c.congestionBps),
    ("liquidity_capacity_minor", .int c.liquidityCapacityMinor),
    ("throughput_headroom_bps", .int c.throughputHeadroomBps), ("speed_bps", .int c.speedBps),
    ("estimated_cost_minor", .int c.estimatedCostMinor),
    ("link_status", .str c.linkStatus.value),
    ("telemetry_observed_at", .int (epochSeconds observed)),
    ("telemetry_expires_at", .int (epochSeconds expires))]

end RouteCandidate

/-- A candidate with its score and its place in the ranking. -/
structure RankedRoute where
  candidate : RouteCandidate
  scoreBps : Int
  componentScores : List (String × Int)
  rank : ℕ
  deriving DecidableEq, Repr

/-- The component scores as an object. -/
def RankedRoute.componentFields (r : RankedRoute) : Fields :=
  r.componentScores.map fun p => (p.1, .int p.2)

/-- `RankedRoute.to_payload`. -/
def RankedRoute.toPayload (rt : Runtime) (r : RankedRoute) : Except Exn Json := do
  return .obj [("rank", .int r.rank), ("score_bps", .int r.scoreBps),
    ("component_scores", .obj r.componentFields), ("route", .obj (← r.candidate.toPayload rt))]

/-! ## Plans and attempts -/

/-- A recorded failure of one attempt. -/
structure RouteFailure where
  rttId : String
  routeId : String
  failureCode : String
  disposition : FailureDisposition
  recordedAt : Instant
  deriving DecidableEq, Repr

/-- The execution plan of a UTT. -/
structure ExecutionPlan where
  planId : String
  uttId : String
  rankedRoutes : List RankedRoute
  remainingRouteIds : List String
  failures : List RouteFailure
  attemptsUsed : ℕ
  maxAttempts : Int
  routingBudgetMinor : Int
  routingCostSpentMinor : Int
  currentRttId : Option String
  previousRttId : Option String
  previousRouteId : Option String
  status : PlanStatus
  successfulRouteId : Option String
  version : ℕ
  createdAt : Instant
  updatedAt : Instant
  deriving DecidableEq, Repr

/-- `ExecutionPlan.routing_budget_remaining_minor`. -/
def ExecutionPlan.routingBudgetRemainingMinor (p : ExecutionPlan) : Int :=
  max 0 (p.routingBudgetMinor - p.routingCostSpentMinor)

/-- The operational record of one attempt, with its signed birth artifact. -/
structure RttAttemptRecord where
  rttId : String
  uttId : String
  planId : String
  attemptNumber : ℕ
  routeId : String
  signedRtt : SignatureEnvelope
  state : AttemptState
  failureCode : Option String
  actualCostMinor : Option Int
  createdAt : Instant
  updatedAt : Instant
  deriving DecidableEq, Repr

end RailOne
