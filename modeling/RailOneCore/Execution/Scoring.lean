import RailOneCore.Execution.Models

/-!
# Route eligibility and scoring

The integer-only scorer: every eligible candidate gets seven component scores between 0 and 10000 and
their weighted mean, and the candidates are ranked by descending score and ascending route id.
-/

namespace RailOne

/-- `RouteScoreWeights`: non-negative weights that add up to 10000. -/
structure RouteScoreWeights where
  latency : ℕ
  congestion : ℕ
  liquidity : ℕ
  throughput : ℕ
  speed : ℕ
  cost : ℕ
  link : ℕ
  total : latency + congestion + liquidity + throughput + speed + cost + link = 10000

/-- The default weights. -/
def RouteScoreWeights.default : RouteScoreWeights where
  latency := 1600
  congestion := 1200
  liquidity := 1700
  throughput := 1200
  speed := 1200
  cost := 1800
  link := 1300
  total := rfl

/-- What the ranking is asked for: the terms of the UTT and the instant. -/
structure RankingRequest where
  amountMinor : Int
  currencyFrom : String
  currencyTo : String
  routingBudgetMinor : Int
  sourceInstitutionId : String
  destinationInstitutionId : String
  instant : Instant
  deriving DecidableEq, Repr

namespace DeterministicRouteScorer

variable (rt : Runtime) (weights : RouteScoreWeights)

/-- `_eligible`.  The telemetry times are aware, which `normalized` has checked before. -/
def eligible (c : RouteCandidate) (q : RankingRequest) : Bool :=
  c.linkStatus ≠ .down &&
    (match c.telemetryObservedAt with | .aware t => decide (t ≤ q.instant) | .naive => false) &&
    (match c.telemetryExpiresAt with | .aware t => decide (q.instant < t) | .naive => false) &&
    rt.upper c.currencyFrom == rt.upper q.currencyFrom &&
    rt.upper c.currencyTo == rt.upper q.currencyTo &&
    c.minAmountMinor ≤ q.amountMinor && q.amountMinor ≤ c.maxAmountMinor &&
    q.amountMinor ≤ c.liquidityCapacityMinor &&
    c.estimatedCostMinor ≤ q.routingBudgetMinor &&
    c.sourceInstitutionId == q.sourceInstitutionId &&
    c.destinationInstitutionId == q.destinationInstitutionId

/-- `_components`, in the order of the source.  `//` is floor division and refuses zero. -/
def components (c : RouteCandidate) (q : RankingRequest) : Except Exn (List (String × Int)) :=
  if q.amountMinor = 0 then
    .error ⟨.zeroDivisionError, "integer division or modulo by zero"⟩
  else
    let latency := max 0 (10000 - min c.latencyMs 10000)
    let congestion := 10000 - c.congestionBps
    let liquidity :=
      min 10000 (((c.liquidityCapacityMinor - q.amountMinor) * 10000).fdiv q.amountMinor)
    let cost :=
      if q.routingBudgetMinor = 0 then 10000
      else max 0 (10000 - (c.estimatedCostMinor * 10000).fdiv q.routingBudgetMinor)
    let link := if c.linkStatus = .up then 10000 else 4000
    .ok [("latency", latency), ("congestion", congestion), ("liquidity", liquidity),
      ("throughput", c.throughputHeadroomBps), ("speed", c.speedBps), ("cost", cost),
      ("link", link)]

/-- The weighted score of the component scores. -/
def weighted (scores : List (String × Int)) : Int :=
  let byName (name : String) : Int := (scores.lookup name).getD 0
  (byName "latency" * weights.latency + byName "congestion" * weights.congestion +
    byName "liquidity" * weights.liquidity + byName "throughput" * weights.throughput +
    byName "speed" * weights.speed + byName "cost" * weights.cost +
    byName "link" * weights.link).fdiv 10000

/-- A scored candidate: the candidate, its score and its component scores. -/
abbrev Scored := RouteCandidate × Int × List (String × Int)

/-- The loop over the candidates: each is checked, then skipped or scored. -/
def scoreAll (q : RankingRequest) : List RouteCandidate → Except Exn (List Scored)
  | [] => .ok []
  | c :: cs => do
    c.normalized
    if eligible rt c q then
      let scores ← components c q
      let rest ← scoreAll q cs
      return (c, weighted weights scores, scores) :: rest
    else scoreAll q cs

/-- The sort key `(-score, route_id)`. -/
def precedes (a b : Scored) : Prop :=
  b.2.1 < a.2.1 ∨ (a.2.1 = b.2.1 ∧ a.1.routeId ≤ b.1.routeId)

instance : DecidableRel precedes := fun a b =>
  inferInstanceAs (Decidable (b.2.1 < a.2.1 ∨ (a.2.1 = b.2.1 ∧ a.1.routeId ≤ b.1.routeId)))

/-- `enumerate(scored, start=1)`. -/
def enumerateRanks (start : ℕ) : List Scored → List RankedRoute
  | [] => []
  | s :: rest => ⟨s.1, s.2.1, s.2.2, start⟩ :: enumerateRanks (start + 1) rest

/-- `rank`. -/
def rank (candidates : List RouteCandidate) (q : RankingRequest) :
    Except Exn (List RankedRoute) :=
  if ¬ (candidates.map RouteCandidate.routeId).Nodup then
    .error ⟨.valueError, "route_id must be unique within a planning request"⟩
  else do
    let scored ← scoreAll rt weights q candidates
    return enumerateRanks 1 (scored.insertionSort precedes)

/-! ## Ranked routes are eligible candidates -/

variable {rt weights}

/-- Every scored candidate was offered, passed its checks and is eligible. -/
theorem mem_of_scoreAll {q : RankingRequest} {cs : List RouteCandidate} {scored : List Scored}
    (h : scoreAll rt weights q cs = .ok scored) {s : Scored} (hs : s ∈ scored) :
    s.1 ∈ cs ∧ s.1.normalized = .ok () ∧ eligible rt s.1 q = true := by
  induction cs generalizing scored with
  | nil =>
    cases h
    cases hs
  | cons c cs ih =>
    unfold scoreAll at h
    cases hn : c.normalized with
    | error e => rw [hn] at h; cases h
    | ok u =>
      rw [hn] at h
      simp only [bind, Except.bind] at h
      split_ifs at h with he
      · cases hcomp : components c q with
        | error e => rw [hcomp] at h; cases h
        | ok scores =>
          rw [hcomp] at h
          cases hrest : scoreAll rt weights q cs with
          | error e => rw [hrest] at h; cases h
          | ok rest =>
            rw [hrest] at h
            cases h
            rcases List.mem_cons.mp hs with rfl | hs
            · exact ⟨List.mem_cons_self, hn, he⟩
            · obtain ⟨hmem, hrest⟩ := ih hrest hs
              exact ⟨List.mem_cons_of_mem _ hmem, hrest⟩
      · obtain ⟨hmem, hrest⟩ := ih h hs
        exact ⟨List.mem_cons_of_mem _ hmem, hrest⟩

theorem candidate_of_mem_enumerateRanks {start : ℕ} {l : List Scored} {r : RankedRoute}
    (h : r ∈ enumerateRanks start l) : ∃ s ∈ l, s.1 = r.candidate := by
  induction l generalizing start with
  | nil => cases h
  | cons s l ih =>
    rcases List.mem_cons.mp h with rfl | h
    · exact ⟨s, List.mem_cons_self, rfl⟩
    · obtain ⟨t, ht, heq⟩ := ih h
      exact ⟨t, List.mem_cons_of_mem _ ht, heq⟩

/-- Every ranked route is a candidate that passed its checks and is eligible. -/
theorem mem_of_rank {q : RankingRequest} {cs : List RouteCandidate} {ranked : List RankedRoute}
    (h : rank rt weights cs q = .ok ranked) {r : RankedRoute} (hr : r ∈ ranked) :
    r.candidate ∈ cs ∧ r.candidate.normalized = .ok () ∧ eligible rt r.candidate q = true := by
  unfold rank at h
  split_ifs at h with hnd
  simp only [bind, Except.bind] at h
  cases hscored : scoreAll rt weights q cs with
  | error e => rw [hscored] at h; cases h
  | ok scored =>
    rw [hscored] at h
    cases h
    obtain ⟨s, hs, heq⟩ := candidate_of_mem_enumerateRanks hr
    rw [List.mem_insertionSort] at hs
    exact heq ▸ mem_of_scoreAll hscored hs

end DeterministicRouteScorer

end RailOne
