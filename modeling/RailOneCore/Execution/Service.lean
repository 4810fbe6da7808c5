import RailOneCore.Platform.World

/-!
# Planning and the life of route attempts

The code of `ExecutionPlanningService.build_plan` and of the four operations of `RttAttemptService`.
Each call reads what it needs, computes new records, and ends with at most one compare-and-swap on
the execution store.  The computations are functions of their own, so that the programs below show
only the steps and their order.

Timestamps are passed in; the clock that stands in for an omitted one yields some aware timestamp.
-/

namespace RailOne

open Concurrent

variable (d : Deployment)

/-! ## Planning -/

namespace ExecutionPlanningService

/-- The terms of the UTT that the ranking needs. -/
def rankingRequest (utt : Fields) (instant : Instant) : Except Exn RankingRequest := do
  let amountMinor ← utt.intItem "amount_minor"
  let currencyFrom ← utt.strItem "currency_from"
  let currencyTo ← utt.strItem "currency_to"
  let routingBudgetMinor ← utt.intItem "routing_budget_minor"
  let payer ← utt.objItem "payer"
  let payerEndpoint ← payer.objItem "endpoint"
  let sourceInstitutionId ← payerEndpoint.strItem "institution_id"
  let beneficiary ← utt.objItem "beneficiary"
  let beneficiaryEndpoint ← beneficiary.objItem "endpoint"
  let destinationInstitutionId ← beneficiaryEndpoint.strItem "institution_id"
  return { amountMinor, currencyFrom, currencyTo, routingBudgetMinor, sourceInstitutionId,
           destinationInstitutionId, instant }

/-- A plan that has not been started. -/
def newPlan (planId uttId : String) (ranked : List RankedRoute)
    (maxAttempts routingBudgetMinor : Int) (instant : Instant) : ExecutionPlan where
  planId := planId
  uttId := uttId
  rankedRoutes := ranked
  remainingRouteIds := ranked.map fun r => r.candidate.routeId
  failures := []
  attemptsUsed := 0
  maxAttempts := maxAttempts
  routingBudgetMinor := routingBudgetMinor
  routingCostSpentMinor := 0
  currentRttId := none
  previousRttId := none
  previousRouteId := none
  status := .active
  successfulRouteId := none
  version := 1
  createdAt := instant
  updatedAt := instant

/-- The plan of a verified UTT. -/
def draft (uttId : String) (signedUtt : SignatureEnvelope) (candidates : List RouteCandidate)
    (instant : Instant) : Except Exn ExecutionPlan := do
  let utt := signedUtt.payload
  let request ← rankingRequest utt instant
  let ranked ← DeterministicRouteScorer.rank d.rt d.weights candidates request
  require (ranked ≠ []) ⟨.noEligibleRoute, "no eligible route for accepted UTT"⟩
  let uttHash ← signedUtt.header.item "payload_sha256"
  let policy ← utt.item "routing_policy_id"
  let routes ← ranked.mapM (RankedRoute.toPayload d.rt)
  let planId ← d.rt.contentId "PLAN" (.obj [("utt_id", .str uttId), ("utt_payload_sha256", uttHash),
    ("routing_policy_id", policy), ("ranked_routes", .arr routes),
    ("created_at", .int (epochSeconds instant))])
  let maxAttempts ← utt.intItem "max_attempts"
  return newPlan planId uttId ranked maxAttempts request.routingBudgetMinor instant

/-- A drafted plan is new, for the ranked routes and the limits of the UTT. -/
theorem draft_eq_ok {d : Deployment} {uttId : String} {signedUtt : SignatureEnvelope}
    {candidates : List RouteCandidate} {instant : Instant} {plan : ExecutionPlan}
    (h : draft d uttId signedUtt candidates instant = .ok plan) :
    ∃ request ranked planId maxAttempts,
      rankingRequest signedUtt.payload instant = .ok request ∧
      DeterministicRouteScorer.rank d.rt d.weights candidates request = .ok ranked ∧
      signedUtt.payload.intItem "max_attempts" = .ok maxAttempts ∧
      plan = newPlan planId uttId ranked maxAttempts request.routingBudgetMinor instant := by
  simp only [draft, bind_eq_ok, pure_eq_ok] at h
  obtain ⟨request, hreq, ranked, hrank, -, -, -, -, -, -, -, -, planId, -, maxAttempts, hmax, rfl⟩ :=
    h
  exact ⟨request, ranked, planId, maxAttempts, hreq, hrank, hmax, rfl⟩

/-- `build_plan`. -/
def buildPlan (uttId : String) (candidates : List RouteCandidate) (at_ : Datetime) :
    Code ExecutionPlan := do
  let instant ← requireAware "planning timestamp" at_
  let key ← requireText "utt_id" uttId
  let signedUtt ← Code.requireUtt key
  Code.requireValid signedUtt .utt "UTT"
  let plan ← draft d uttId signedUtt candidates instant
  Code.createPlan plan

end ExecutionPlanningService

/-! ## New records -/

/-- Whether a route that is left is affordable once `spent` has been spent. -/
def ExecutionPlan.affordableRouteRemains (plan : ExecutionPlan) (spent : Int) : Bool :=
  plan.rankedRoutes.any fun r =>
    decide (r.candidate.routeId ∈ plan.remainingRouteIds) &&
      decide (r.candidate.estimatedCostMinor ≤ max 0 (plan.routingBudgetMinor - spent))

/-- The status after a failure: a retryable one exhausts the plan when no attempt or no affordable
route is left. -/
def ExecutionPlan.statusAfterFailure (plan : ExecutionPlan) (spent : Int) :
    FailureDisposition → PlanStatus
  | .reconciliationRequired => .reconciliationRequired
  | .terminal => .failed
  | .retryable =>
    if plan.maxAttempts ≤ plan.attemptsUsed ∨ ¬ plan.affordableRouteRemains spent then .exhausted
    else .active

/-- The plan after a recorded failure.  An unknown outcome keeps the attempt in flight, under the
identifier as the caller passed it. -/
def ExecutionPlan.afterFailure (plan : ExecutionPlan) (rttId routeId code : String)
    (disposition : FailureDisposition) (cost : Int) (instant : Instant) : ExecutionPlan :=
  let spent := plan.routingCostSpentMinor + cost
  { plan with
    failures := plan.failures ++ [⟨rttId, routeId, code, disposition, instant⟩]
    routingCostSpentMinor := spent
    currentRttId := if disposition = .reconciliationRequired then some rttId else none
    previousRttId := some rttId
    previousRouteId := some routeId
    status := plan.statusAfterFailure spent disposition
    version := plan.version + 1
    updatedAt := instant }

/-- The plan after a recorded success. -/
def ExecutionPlan.afterSuccess (plan : ExecutionPlan) (rttId routeId : String) (cost : Int)
    (instant : Instant) : ExecutionPlan :=
  { plan with
    routingCostSpentMinor := plan.routingCostSpentMinor + cost
    currentRttId := none
    previousRttId := some rttId
    previousRouteId := some routeId
    status := .finalized
    successfulRouteId := some routeId
    version := plan.version + 1
    updatedAt := instant }

/-- The plan after the start of an attempt over `routeId`. -/
def ExecutionPlan.afterStart (plan : ExecutionPlan) (rttId routeId : String) (instant : Instant) :
    ExecutionPlan :=
  { plan with
    remainingRouteIds := plan.remainingRouteIds.filter (· ≠ routeId)
    attemptsUsed := plan.attemptsUsed + 1
    currentRttId := some rttId
    version := plan.version + 1
    updatedAt := instant }

/-- The attempt after a recorded failure. -/
def RttAttemptRecord.afterFailure (a : RttAttemptRecord) (code : String)
    (disposition : FailureDisposition) (cost : Int) (instant : Instant) : RttAttemptRecord :=
  { a with
    state := if disposition = .reconciliationRequired then .reconciliationRequired else .failed
    failureCode := some code
    actualCostMinor := some cost
    updatedAt := instant }

/-- The attempt after a recorded success. -/
def RttAttemptRecord.afterSuccess (a : RttAttemptRecord) (cost : Int) (instant : Instant) :
    RttAttemptRecord :=
  { a with state := .succeeded, actualCostMinor := some cost, updatedAt := instant }

/-! ## Attempts -/

namespace RttAttemptService

/-- The first remaining route whose cost the budget still covers.  Route identifiers are unique in a
plan, so the first ranked route with an identifier is the one. -/
def firstAffordable (plan : ExecutionPlan) : List String → Except Exn (Option RankedRoute)
  | [] => .ok none
  | id :: ids =>
    match plan.rankedRoutes.find? fun r => r.candidate.routeId == id with
    | none => .error ⟨.keyError, id⟩
    | some r =>
      if r.candidate.estimatedCostMinor ≤ plan.routingBudgetRemainingMinor then .ok (some r)
      else firstAffordable plan ids

/-- The route of the next attempt. -/
def selectRoute (plan : ExecutionPlan) : Except Exn RankedRoute := do
  require (plan.status = .active) ⟨.planNotExecutable, "plan is " ++ plan.status.value⟩
  require (plan.currentRttId = none) ⟨.planNotExecutable, "an RTT is already in flight"⟩
  require (plan.attemptsUsed < plan.maxAttempts)
    ⟨.planNotExecutable, "attempt limit exhausted"⟩
  match ← firstAffordable plan plan.remainingRouteIds with
  | none => .error ⟨.planNotExecutable, "no affordable route remains"⟩
  | some selected => return selected

/-- The selected affordable route is one of the plan. -/
theorem firstAffordable_eq_ok {plan : ExecutionPlan} {ids : List String} {r : RankedRoute}
    (h : firstAffordable plan ids = .ok (some r)) :
    r ∈ plan.rankedRoutes ∧ r.candidate.routeId ∈ ids := by
  induction ids with
  | nil => cases h
  | cons id ids ih =>
    unfold firstAffordable at h
    split at h
    · cases h
    · next q hq =>
      split_ifs at h
      · cases h
        have hid : r.candidate.routeId = id := by simpa using List.find?_some hq
        exact ⟨List.mem_of_find?_eq_some hq, hid ▸ List.mem_cons_self⟩
      · exact ⟨(ih h).1, List.mem_cons_of_mem _ (ih h).2⟩

/-- A route is selected only for a plan that may start an attempt. -/
theorem selectRoute_eq_ok {plan : ExecutionPlan} {r : RankedRoute}
    (h : selectRoute plan = .ok r) :
    plan.status = .active ∧ plan.currentRttId = none ∧ plan.attemptsUsed < plan.maxAttempts ∧
      r ∈ plan.rankedRoutes ∧ r.candidate.routeId ∈ plan.remainingRouteIds := by
  simp only [selectRoute, bind_eq_ok, require_eq_ok] at h
  obtain ⟨-, hstatus, -, hcur, -, hlimit, found, hfound, h⟩ := h
  cases found with
  | none => cases h
  | some q =>
    rw [pure_eq_ok] at h
    subst h
    exact ⟨hstatus, hcur, hlimit, firstAffordable_eq_ok hfound⟩

/-- The identifier of the next attempt. -/
def nextRttId (uttId : String) (plan : ExecutionPlan) (routeId : String) (instant : Instant) :
    Except Exn String :=
  d.rt.contentId "RTT" (.obj [("utt_id", .str uttId), ("plan_id", .str plan.planId),
    ("attempt_number", .int (plan.attemptsUsed + 1)), ("route_id", .str routeId),
    ("previous_rtt_id", .ofOption plan.previousRttId),
    ("created_at", .int (epochSeconds instant))])

/-- The birth artifact of the next attempt. -/
def rttPayload (rttId uttId : String) (uttHash : Json) (plan : ExecutionPlan)
    (selected : RankedRoute) (instant : Instant) : Except Exn Fields := do
  let route ← selected.candidate.toPayload d.rt
  return [("rtt_id", .str rttId), ("utt_id", .str uttId), ("utt_payload_sha256", uttHash),
    ("plan_id", .str plan.planId), ("attempt_number", .int (plan.attemptsUsed + 1)),
    ("route", .obj route), ("route_score_bps", .int selected.scoreBps),
    ("route_component_scores", .obj selected.componentFields),
    ("previous_rtt_id", .ofOption plan.previousRttId),
    ("previous_route_id", .ofOption plan.previousRouteId),
    ("replay_generation", .int plan.attemptsUsed), ("birth_state", .str "CREATED"),
    ("created_at", .int (epochSeconds instant)), ("custody_model", .str "NON_CUSTODIAL")]

/-- An attempt as it is born. -/
def newAttempt (rttId uttId : String) (plan : ExecutionPlan) (routeId : String)
    (signedRtt : SignatureEnvelope) (instant : Instant) : RttAttemptRecord where
  rttId := rttId
  uttId := uttId
  planId := plan.planId
  attemptNumber := plan.attemptsUsed + 1
  routeId := routeId
  signedRtt := signedRtt
  state := .created
  failureCode := none
  actualCostMinor := none
  createdAt := instant
  updatedAt := instant

/-- The partner validates one side of the payment. -/
def validateSide (utt : Fields) (side currency : String) (role : AccountRole) : Code Unit := do
  let actor ← utt.objItem side
  let actorId ← actor.item "actor_id"
  let endpoint ← actor.objItem "endpoint"
  let endpoint ← AccountEndpoint.fromPayload endpoint
  let currency ← utt.item currency
  Code.validateEndpoint actorId endpoint role currency

/-- The endpoint checks of `start_next`. -/
def validateEndpoints (utt : Fields) : Code Unit :=
  match d.attemptEndpoints with
  | .unverified allowed =>
    .ret (require allowed ⟨.runtimeError, "partner endpoint validator is required for RTT start"⟩)
  | .validated => do
    validateSide utt "payer" "currency_from" .debit
    validateSide utt "beneficiary" "currency_to" .credit

theorem ops_validateSide {utt : Fields} {side currency : String} {role : AccountRole} :
    (validateSide utt side currency role).Ops fun o => o.part = .nothing := by
  unfold validateSide
  repeat' first
    | with_reducible exact Prog.ops_pure _
    | with_reducible exact Prog.ops_liftM _
    | with_reducible refine Prog.Ops.bind ?_ fun _ => ?_
    | exact ops_call.mpr rfl

theorem ops_validateEndpoints {d : Deployment} {utt : Fields} :
    (validateEndpoints d utt).Ops fun o => o.part = .nothing := by
  unfold validateEndpoints
  split
  · exact Prog.ops_ret _
  · exact Prog.Ops.bind ops_validateSide fun _ => ops_validateSide

/-- `start_next`. -/
def startNext (uttId : String) (at_ : Datetime) : Code RttAttemptRecord := do
  let instant ← requireAware "attempt timestamp" at_
  let key ← requireText "utt_id" uttId
  let signedUtt ← Code.requireUtt key
  Code.requireValid signedUtt .utt "UTT"
  -- `True == 1`
  let version := signedUtt.payload.get "endpoint_model_version"
  require (version = some (.int 1) ∨ version = some (.bool true))
    ⟨.planNotExecutable, "UTT uses an unsupported endpoint model"⟩
  validateEndpoints d signedUtt.payload
  let plan ← Code.requirePlanForUtt uttId
  let selected ← selectRoute plan
  let routeId := selected.candidate.routeId
  let rttId ← nextRttId d uttId plan routeId instant
  let uttHash ← signedUtt.header.item "payload_sha256"
  let payload ← rttPayload d rttId uttId uttHash plan selected instant
  let signedRtt ← Code.sign .rtt payload d.rttSigningKeyId instant
  let attempt := newAttempt rttId uttId plan routeId signedRtt instant
  Code.commitStart plan.version (plan.afterStart rttId routeId instant) attempt
  return attempt

/-- `record_failure`. -/
def recordFailure (rttId failureCode : String) (disposition : FailureDisposition)
    (actualCostMinor : Int) (at_ : Datetime) : Code ExecutionPlan := do
  let instant ← requireAware "failure timestamp" at_
  let cost ← requireMinorUnits "actual_cost_minor" actualCostMinor true
  let code ← requireText "failure_code" failureCode
  let key ← requireText "rtt_id" rttId
  let attempt ← Code.requireAttempt key
  require (attempt.state = .created)
    ⟨.planNotExecutable, "RTT has already reached an operational outcome"⟩
  let plan ← Code.requirePlan attempt.planId
  let updated := plan.afterFailure rttId attempt.routeId (d.rt.upper code) disposition cost instant
  Code.commitTransition plan.version updated
    (attempt.afterFailure (d.rt.upper code) disposition cost instant)
  return updated

/-- `record_success`. -/
def recordSuccess (rttId : String) (actualCostMinor : Int) (at_ : Datetime) :
    Code ExecutionPlan := do
  let instant ← requireAware "success timestamp" at_
  let cost ← requireMinorUnits "actual_cost_minor" actualCostMinor true
  let key ← requireText "rtt_id" rttId
  let attempt ← Code.requireAttempt key
  require (attempt.state = .created)
    ⟨.planNotExecutable, "RTT has already reached an operational outcome"⟩
  let plan ← Code.requirePlan attempt.planId
  let updated := plan.afterSuccess rttId attempt.routeId cost instant
  Code.commitTransition plan.version updated (attempt.afterSuccess cost instant)
  return updated

/-- The records of a resolved reconciliation. -/
def resolution (plan : ExecutionPlan) (attempt : RttAttemptRecord) (rttId : String)
    (succeeded : Bool) (failureCode : Option String) (disposition : FailureDisposition)
    (cost : Int) (instant : Instant) : Except Exn (ExecutionPlan × RttAttemptRecord) :=
  if succeeded then
    .ok (plan.afterSuccess rttId attempt.routeId cost instant, attempt.afterSuccess cost instant)
  else do
    -- `failure_code or "PROVIDER_CONFIRMED_FAILURE"`
    let code ← requireText "failure_code" (match failureCode with
      | some code => if code = "" then "PROVIDER_CONFIRMED_FAILURE" else code
      | none => "PROVIDER_CONFIRMED_FAILURE")
    require (disposition ≠ .reconciliationRequired)
      ⟨.valueError, "reconciliation resolution must be success or confirmed failure"⟩
    return (plan.afterFailure rttId attempt.routeId (d.rt.upper code) disposition cost instant,
      attempt.afterFailure (d.rt.upper code) disposition cost instant)

/-- A resolution is a success or a confirmed failure. -/
theorem resolution_eq_ok {d : Deployment} {plan : ExecutionPlan} {attempt : RttAttemptRecord}
    {rttId : String} {succeeded : Bool} {failureCode : Option String}
    {disposition : FailureDisposition} {cost : Int} {instant : Instant}
    {res : ExecutionPlan × RttAttemptRecord}
    (h : resolution d plan attempt rttId succeeded failureCode disposition cost instant = .ok res) :
    res = (plan.afterSuccess rttId attempt.routeId cost instant,
        attempt.afterSuccess cost instant) ∨
      disposition ≠ .reconciliationRequired ∧ ∃ code,
        res = (plan.afterFailure rttId attempt.routeId code disposition cost instant,
          attempt.afterFailure code disposition cost instant) := by
  unfold resolution at h
  split_ifs at h
  · cases h
    exact .inl rfl
  · simp only [bind_eq_ok, require_eq_ok, pure_eq_ok] at h
    obtain ⟨code, -, -, hdisp, rfl⟩ := h
    exact .inr ⟨hdisp, _, rfl⟩

/-- `resolve_reconciliation`. -/
def resolveReconciliation (rttId : String) (succeeded : Bool) (actualCostMinor : Int)
    (failureCode : Option String) (failureDisposition : FailureDisposition) (at_ : Datetime) :
    Code ExecutionPlan := do
  let instant ← requireAware "reconciliation timestamp" at_
  let cost ← requireMinorUnits "actual_cost_minor" actualCostMinor true
  let key ← requireText "rtt_id" rttId
  let attempt ← Code.requireAttempt key
  require (attempt.state = .reconciliationRequired)
    ⟨.planNotExecutable, "RTT is not awaiting reconciliation"⟩
  let plan ← Code.requirePlan attempt.planId
  require (plan.status = .reconciliationRequired ∧ plan.currentRttId = some rttId)
    ⟨.planNotExecutable, "execution plan is not awaiting this RTT"⟩
  let updated ← resolution d plan attempt rttId succeeded failureCode failureDisposition cost instant
  Code.commitTransition plan.version updated.1 updated.2
  return updated.1

end RttAttemptService

end RailOne
