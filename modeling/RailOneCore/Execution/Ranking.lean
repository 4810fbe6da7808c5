import RailOneCore.Execution.Scoring
import RailOneCore.Foundation.SampleRuntime

/-!
# What a ranking says

For positive amounts the scorer divides by no zero, and a ranking is the list of the eligible
candidates in the order of their scores and route ids.  It does not depend on the order in which the
candidates were offered, all scores are between 0 and 10000, and a candidate that is nowhere worse than
another is scored at least as high.
-/

namespace RailOne

namespace DeterministicRouteScorer

variable {rt : Runtime} {weights : RouteScoreWeights} {q : RankingRequest} {c : RouteCandidate}
  {cs cs' : List RouteCandidate} {ranked : List RankedRoute}

/-! ## Scores -/

/-- The component scores of a candidate. -/
def componentScores (q : RankingRequest) (c : RouteCandidate) : List (String × Int) :=
  (components c q).toOption.getD []

/-- The score of a candidate. -/
def scoreOf (weights : RouteScoreWeights) (q : RankingRequest) (c : RouteCandidate) : Int :=
  weighted weights (componentScores q c)

/-- A candidate with its scores. -/
def scoredOf (weights : RouteScoreWeights) (q : RankingRequest) (c : RouteCandidate) : Scored :=
  (c, scoreOf weights q c, componentScores q c)

theorem components_eq_ok (hamount : q.amountMinor ≠ 0) (c : RouteCandidate) :
    components c q = .ok (componentScores q c) := by
  unfold componentScores components
  rw [if_neg hamount]
  rfl

/-- The loop returns when all candidates pass their checks, and has then scored the eligible ones. -/
theorem scoreAll_eq_ok (hamount : q.amountMinor ≠ 0) {scored : List Scored} :
    scoreAll rt weights q cs = .ok scored ↔ (∀ c ∈ cs, c.normalized = .ok ()) ∧
      scored = (cs.filter fun c => eligible rt c q).map (scoredOf weights q) := by
  induction cs generalizing scored with
  | nil =>
    rw [scoreAll, Except.ok.injEq, List.filter_nil, List.map_nil, eq_comm]
    exact (and_iff_right fun c hc => absurd hc List.not_mem_nil).symm
  | cons c cs ih =>
    rw [scoreAll, bind_eq_ok]
    cases heligible : eligible rt c q with
    | true =>
      have hfilter : (c :: cs).filter (fun c => eligible rt c q) =
          c :: cs.filter fun c => eligible rt c q := List.filter_cons_of_pos heligible
      simp only [if_true, components_eq_ok hamount, bind_eq_ok, pure_eq_ok, Except.ok.injEq, ih]
      rw [hfilter, List.forall_mem_cons]
      constructor
      · rintro ⟨u, hc, _, rfl, _, ⟨hcs, rfl⟩, rfl⟩
        exact ⟨⟨hc, hcs⟩, rfl⟩
      · rintro ⟨⟨hc, hcs⟩, rfl⟩
        exact ⟨(), hc, _, rfl, _, ⟨hcs, rfl⟩, rfl⟩
    | false =>
      have hfilter : (c :: cs).filter (fun c => eligible rt c q) =
          cs.filter fun c => eligible rt c q := List.filter_cons_of_neg (by simp [heligible])
      simp only [Bool.false_eq_true, if_false, ih]
      rw [hfilter, List.forall_mem_cons]
      constructor
      · rintro ⟨u, hc, hcs, rfl⟩
        exact ⟨⟨hc, hcs⟩, rfl⟩
      · rintro ⟨⟨hc, hcs⟩, rfl⟩
        exact ⟨(), hc, hcs, rfl⟩

/-! ## Rankings -/

/-- The strict order of a ranking. -/
def ahead (a b : Scored) : Prop :=
  b.2.1 < a.2.1 ∨ (a.2.1 = b.2.1 ∧ a.1.routeId < b.1.routeId)

instance : DecidableRel ahead := fun a b =>
  inferInstanceAs (Decidable (b.2.1 < a.2.1 ∨ (a.2.1 = b.2.1 ∧ a.1.routeId < b.1.routeId)))

theorem ahead_asymm {a b : Scored} (h : ahead a b) : ¬ ahead b a := by
  rcases h with hlt | ⟨heq, hid⟩
  · rintro (hlt' | ⟨heq', -⟩)
    · omega
    · omega
  · rintro (hlt' | ⟨-, hid'⟩)
    · omega
    · exact lt_asymm hid hid'

instance : Std.Total precedes := ⟨fun a b => by
  rcases lt_trichotomy b.2.1 a.2.1 with hlt | heq | hlt
  · exact .inl (.inl hlt)
  · rcases le_total a.1.routeId b.1.routeId with hle | hle
    · exact .inl (.inr ⟨heq.symm, hle⟩)
    · exact .inr (.inr ⟨heq, hle⟩)
  · exact .inr (.inl hlt)⟩

instance : IsTrans Scored precedes := ⟨fun a b c hab hbc => by
  rcases hab with hab | ⟨hab, hid⟩ <;> rcases hbc with hbc | ⟨hbc, hid'⟩
  · exact .inl (by omega)
  · exact .inl (by omega)
  · exact .inl (by omega)
  · exact .inr ⟨by omega, hid.trans hid'⟩⟩

theorem ahead_of_precedes {a b : Scored} (h : precedes a b) (hid : a.1.routeId ≠ b.1.routeId) :
    ahead a b := by
  rcases h with hlt | ⟨heq, hle⟩
  · exact .inl hlt
  · exact .inr ⟨heq, lt_of_le_of_ne hle hid⟩

/-- Scored candidates with distinct route ids are sorted strictly. -/
theorem ahead_insertionSort {l : List Scored} (h : (l.map fun s => s.1.routeId).Nodup) :
    (l.insertionSort precedes).Pairwise ahead := by
  have hsorted : (l.insertionSort precedes).Pairwise precedes := List.pairwise_insertionSort _ _
  have hdistinct : (l.insertionSort precedes).Pairwise fun a b => a.1.routeId ≠ b.1.routeId :=
    List.pairwise_map.mp (((List.perm_insertionSort _ l).map _).nodup_iff.mpr h)
  exact hsorted.imp₂ (fun _ _ => ahead_of_precedes) hdistinct

/-- A strictly sorted list is determined by its elements. -/
theorem eq_of_ahead {l l' : List Scored} (hl : l.Pairwise ahead) (hl' : l'.Pairwise ahead)
    (hmem : ∀ s, s ∈ l ↔ s ∈ l') : l = l' := by
  have : Std.Irrefl ahead := ⟨fun _ h => ahead_asymm h h⟩
  have : Std.Antisymm ahead := ⟨fun _ _ hab hba => absurd hba (ahead_asymm hab)⟩
  exact hl.eq_of_mem_iff hl' hmem

theorem map_enumerateRanks (start : ℕ) (l : List Scored) :
    (enumerateRanks start l).map (fun r => (r.candidate, r.scoreBps, r.componentScores)) = l := by
  induction l generalizing start with
  | nil => rfl
  | cons s l ih =>
    rw [enumerateRanks, List.map_cons, ih]

theorem ranks_enumerateRanks (start : ℕ) (l : List Scored) :
    (enumerateRanks start l).map RankedRoute.rank = List.range' start l.length := by
  induction l generalizing start with
  | nil => rfl
  | cons s l ih =>
    rw [enumerateRanks, List.map_cons, ih, List.length_cons, List.range'_succ]

/-- The eligible candidates in their order. -/
def order (rt : Runtime) (weights : RouteScoreWeights) (q : RankingRequest)
    (cs : List RouteCandidate) : List Scored :=
  ((cs.filter fun c => eligible rt c q).map (scoredOf weights q)).insertionSort precedes

/-- `rank` returns when the route ids are distinct and all candidates pass their checks. -/
theorem rank_eq_ok (hamount : q.amountMinor ≠ 0) :
    rank rt weights cs q = .ok ranked ↔ (cs.map RouteCandidate.routeId).Nodup ∧
      (∀ c ∈ cs, c.normalized = .ok ()) ∧ ranked = enumerateRanks 1 (order rt weights q cs) := by
  unfold rank
  by_cases hnodup : (cs.map RouteCandidate.routeId).Nodup
  · rw [if_neg (not_not.mpr hnodup)]
    simp only [bind_eq_ok, pure_eq_ok, scoreAll_eq_ok hamount]
    constructor
    · rintro ⟨_, ⟨hcs, rfl⟩, rfl⟩
      exact ⟨hnodup, hcs, rfl⟩
    · rintro ⟨-, hcs, rfl⟩
      exact ⟨_, ⟨hcs, rfl⟩, rfl⟩
  · rw [if_pos hnodup]
    constructor
    · intro h
      cases h
    · rintro ⟨h, -⟩
      exact absurd h hnodup

theorem ahead_order (hnodup : (cs.map RouteCandidate.routeId).Nodup) :
    (order rt weights q cs).Pairwise ahead := by
  refine ahead_insertionSort ?_
  rw [List.map_map]
  exact hnodup.sublist (List.filter_sublist.map _)

theorem perm_order : (order rt weights q cs).Perm
    ((cs.filter fun c => eligible rt c q).map (scoredOf weights q)) :=
  List.perm_insertionSort _ _

theorem mem_order {s : Scored} : s ∈ order rt weights q cs ↔
    ∃ c ∈ cs, eligible rt c q = true ∧ scoredOf weights q c = s := by
  rw [perm_order.mem_iff, List.mem_map]
  simp only [List.mem_filter, and_assoc]

/-- The order does not depend on the order in which the candidates were offered. -/
theorem order_of_perm (h : cs.Perm cs') (hnodup : (cs.map RouteCandidate.routeId).Nodup) :
    order rt weights q cs = order rt weights q cs' := by
  refine eq_of_ahead (ahead_order hnodup) (ahead_order ((h.map _).nodup_iff.mp hnodup)) fun s => ?_
  simp only [mem_order, h.mem_iff]

/-! ## Bounds -/

/-- The numbers of a candidate that passes its checks. -/
structure Measured (c : RouteCandidate) : Prop where
  latency : 0 ≤ c.latencyMs
  congestion : 0 ≤ c.congestionBps ∧ c.congestionBps ≤ 10000
  throughput : 0 ≤ c.throughputHeadroomBps ∧ c.throughputHeadroomBps ≤ 10000
  speed : 0 ≤ c.speedBps ∧ c.speedBps ≤ 10000
  cost : 0 ≤ c.estimatedCostMinor

theorem requireBps_eq_ok {name : String} {value n : Int} :
    requireBps name value = .ok n ↔ 0 ≤ value ∧ value ≤ 10000 ∧ value = n := by
  unfold requireBps
  split_ifs with h
  · rw [Except.ok.injEq, ← and_assoc, and_iff_right h]
  · simp only [false_iff]
    exact fun ⟨hlow, hhigh, _⟩ => h ⟨hlow, hhigh⟩

theorem measured_of_normalized (h : c.normalized = .ok ()) : Measured c := by
  simp only [RouteCandidate.normalized, bind_eq_ok] at h
  obtain ⟨_, -, _, -, _, -, _, -, _, -, _, -, _, -, _, -, _, -, _, -, h⟩ := h
  split_ifs at h
  · cases h
  · simp only [bind_eq_ok, requireMinorUnits_eq_ok, requireBps_eq_ok] at h
    obtain ⟨_, hlatency, _, hcongestion, _, -, _, hthroughput, _, hspeed, _, hcost, -⟩ := h
    exact ⟨hlatency.2, ⟨hcongestion.1, hcongestion.2.1⟩, ⟨hthroughput.1, hthroughput.2.1⟩,
      ⟨hspeed.1, hspeed.2.1⟩, hcost.2⟩

/-- The component scores, one by one. -/
theorem componentScores_eq (hamount : q.amountMinor ≠ 0) (c : RouteCandidate) :
    componentScores q c =
      [("latency", max 0 (10000 - min c.latencyMs 10000)), ("congestion", 10000 - c.congestionBps),
        ("liquidity", min 10000 (((c.liquidityCapacityMinor - q.amountMinor) * 10000).fdiv q.amountMinor)),
        ("throughput", c.throughputHeadroomBps), ("speed", c.speedBps),
        ("cost", if q.routingBudgetMinor = 0 then 10000
          else max 0 (10000 - (c.estimatedCostMinor * 10000).fdiv q.routingBudgetMinor)),
        ("link", if c.linkStatus = .up then 10000 else 4000)] := by
  unfold componentScores components
  rw [if_neg hamount]
  rfl

/-- The numbers that eligibility compares. -/
theorem le_of_eligible (h : eligible rt c q = true) :
    q.amountMinor ≤ c.liquidityCapacityMinor ∧ c.estimatedCostMinor ≤ q.routingBudgetMinor := by
  simp only [eligible, Bool.and_eq_true, decide_eq_true_eq] at h
  exact ⟨h.1.1.1.2, h.1.1.2⟩

/-- Every component score of a candidate that is checked and eligible is between 0 and 10000. -/
theorem componentScores_bounds (hamount : 0 < q.amountMinor) (hbudget : 0 ≤ q.routingBudgetMinor)
    (hc : Measured c) (heligible : eligible rt c q = true) :
    ∀ p ∈ componentScores q c, 0 ≤ p.2 ∧ p.2 ≤ 10000 := by
  obtain ⟨hcapacity, hcost⟩ := le_of_eligible heligible
  have hlatency := hc.latency
  have hliquidity : 0 ≤ ((c.liquidityCapacityMinor - q.amountMinor) * 10000).fdiv q.amountMinor :=
    Int.fdiv_nonneg (by omega) hamount.le
  have hspent : 0 ≤ (c.estimatedCostMinor * 10000).fdiv q.routingBudgetMinor :=
    Int.fdiv_nonneg (by have := hc.cost; omega) hbudget
  rw [componentScores_eq hamount.ne']
  simp only [List.forall_mem_cons, List.not_mem_nil, false_imp_iff, implies_true, and_true]
  refine ⟨⟨?_, ?_⟩, ⟨?_, ?_⟩, ⟨?_, ?_⟩, hc.throughput, hc.speed, ⟨?_, ?_⟩, ?_, ?_⟩
  · omega
  · omega
  · have := hc.congestion; omega
  · have := hc.congestion; omega
  · omega
  · omega
  · split_ifs <;> omega
  · split_ifs <;> omega
  · split_ifs <;> omega
  · split_ifs <;> omega

/-- The weighted mean of the component scores. -/
theorem weighted_eq (latency congestion liquidity throughput speed cost link : Int) :
    weighted weights [("latency", latency), ("congestion", congestion), ("liquidity", liquidity),
      ("throughput", throughput), ("speed", speed), ("cost", cost), ("link", link)] =
    (latency * weights.latency + congestion * weights.congestion + liquidity * weights.liquidity +
      throughput * weights.throughput + speed * weights.speed + cost * weights.cost +
      link * weights.link).fdiv 10000 := by
  simp [weighted, List.lookup]

theorem fdiv_le_fdiv {a b d : Int} (hd : 0 ≤ d) (h : a ≤ b) : a.fdiv d ≤ b.fdiv d := by
  rw [Int.fdiv_eq_ediv_of_nonneg _ hd, Int.fdiv_eq_ediv_of_nonneg _ hd]
  rcases hd.eq_or_lt with rfl | hd
  · simp
  · exact Int.ediv_le_ediv hd h

/-- Higher component scores give a higher score. -/
theorem weighted_mono {x₁ x₂ x₃ x₄ x₅ x₆ x₇ y₁ y₂ y₃ y₄ y₅ y₆ y₇ : Int} (h₁ : x₁ ≤ y₁) (h₂ : x₂ ≤ y₂)
    (h₃ : x₃ ≤ y₃) (h₄ : x₄ ≤ y₄) (h₅ : x₅ ≤ y₅) (h₆ : x₆ ≤ y₆) (h₇ : x₇ ≤ y₇) :
    weighted weights [("latency", x₁), ("congestion", x₂), ("liquidity", x₃), ("throughput", x₄),
      ("speed", x₅), ("cost", x₆), ("link", x₇)] ≤
    weighted weights [("latency", y₁), ("congestion", y₂), ("liquidity", y₃), ("throughput", y₄),
      ("speed", y₅), ("cost", y₆), ("link", y₇)] := by
  have hmul : ∀ {x y : Int} (w : ℕ), x ≤ y → x * w ≤ y * w :=
    fun w h => mul_le_mul_of_nonneg_right h (Int.natCast_nonneg w)
  rw [weighted_eq, weighted_eq]
  refine fdiv_le_fdiv (by decide) ?_
  have e₁ := hmul weights.latency h₁
  have e₂ := hmul weights.congestion h₂
  have e₃ := hmul weights.liquidity h₃
  have e₄ := hmul weights.throughput h₄
  have e₅ := hmul weights.speed h₅
  have e₆ := hmul weights.cost h₆
  have e₇ := hmul weights.link h₇
  linarith

/-- The weights add up to 10000, so that equal component scores are their own mean. -/
theorem weighted_const (x : Int) :
    weighted weights [("latency", x), ("congestion", x), ("liquidity", x), ("throughput", x),
      ("speed", x), ("cost", x), ("link", x)] = x := by
  have htotal : (weights.latency : Int) + weights.congestion + weights.liquidity + weights.throughput +
      weights.speed + weights.cost + weights.link = 10000 := by
    exact_mod_cast weights.total
  have hsum : x * weights.latency + x * weights.congestion + x * weights.liquidity +
      x * weights.throughput + x * weights.speed + x * weights.cost + x * weights.link = x * 10000 := by
    rw [← htotal]
    ring
  rw [weighted_eq, hsum]
  exact Int.mul_fdiv_cancel x (by decide)

/-- The score of a candidate that is checked and eligible is between 0 and 10000. -/
theorem scoreOf_bounds (hamount : 0 < q.amountMinor) (hbudget : 0 ≤ q.routingBudgetMinor)
    (hc : Measured c) (heligible : eligible rt c q = true) :
    0 ≤ scoreOf weights q c ∧ scoreOf weights q c ≤ 10000 := by
  have hbounds := componentScores_bounds hamount hbudget hc heligible
  unfold scoreOf
  rw [componentScores_eq hamount.ne'] at hbounds ⊢
  simp only [List.forall_mem_cons, List.not_mem_nil, false_imp_iff, implies_true, and_true] at hbounds
  obtain ⟨h₁, h₂, h₃, h₄, h₅, h₆, h₇⟩ := hbounds
  constructor
  · exact (weighted_const 0).symm.trans_le (weighted_mono h₁.1 h₂.1 h₃.1 h₄.1 h₅.1 h₆.1 h₇.1)
  · exact (weighted_mono h₁.2 h₂.2 h₃.2 h₄.2 h₅.2 h₆.2 h₇.2).trans_eq (weighted_const 10000)

/-! ## Exactness -/

theorem mem_enumerateRanks {start : ℕ} {l : List Scored} {r : RankedRoute}
    (h : r ∈ enumerateRanks start l) : (r.candidate, r.scoreBps, r.componentScores) ∈ l := by
  rw [← map_enumerateRanks start l]
  exact List.mem_map_of_mem h

/-- A ranked route is an eligible candidate with its scores. -/
theorem scored_of_rank (hamount : q.amountMinor ≠ 0) (h : rank rt weights cs q = .ok ranked)
    {r : RankedRoute} (hr : r ∈ ranked) :
    r.candidate ∈ cs ∧ r.candidate.normalized = .ok () ∧ eligible rt r.candidate q = true ∧
      r.scoreBps = scoreOf weights q r.candidate ∧
      r.componentScores = componentScores q r.candidate := by
  obtain ⟨-, hcs, rfl⟩ := (rank_eq_ok hamount).mp h
  obtain ⟨c, hc, heligible, hscored⟩ := mem_order.mp (mem_enumerateRanks hr)
  obtain ⟨rfl, hrest⟩ := Prod.mk.inj hscored
  obtain ⟨hscore, hcomponents⟩ := Prod.mk.inj hrest
  exact ⟨hc, hcs _ hc, heligible, hscore.symm, hcomponents.symm⟩

theorem perm_candidates : ((enumerateRanks 1 (order rt weights q cs)).map RankedRoute.candidate).Perm
    (cs.filter fun c => eligible rt c q) := by
  have hcandidates : (enumerateRanks 1 (order rt weights q cs)).map RankedRoute.candidate =
      (order rt weights q cs).map Prod.fst := by
    conv_rhs => rw [← map_enumerateRanks 1 (order rt weights q cs), List.map_map]
    rfl
  have hscored : ((cs.filter fun c => eligible rt c q).map (scoredOf weights q)).map Prod.fst =
      cs.filter fun c => eligible rt c q := by
    rw [List.map_map]
    exact List.map_id _
  rw [hcandidates, ← hscored]
  exact perm_order.map Prod.fst

theorem rank_of_perm (hamount : q.amountMinor ≠ 0) (h : cs.Perm cs') :
    rank rt weights cs q = .ok ranked ↔ rank rt weights cs' q = .ok ranked := by
  rw [rank_eq_ok hamount, rank_eq_ok hamount, (h.map RouteCandidate.routeId).nodup_iff]
  refine and_congr_right fun hnodup => ?_
  rw [order_of_perm h.symm hnodup]
  simp only [h.mem_iff]

/-- A ranking holds exactly the eligible candidates, with ranks from 1 on in the strict order of scores
and route ids, all scores are between 0 and 10000, and the order in which the candidates are offered
makes no difference. -/
theorem ranking_exact (hamount : 0 < q.amountMinor) (hbudget : 0 ≤ q.routingBudgetMinor) :
    (∀ ranked, rank rt weights cs q = .ok ranked →
      (ranked.map RankedRoute.candidate).Perm (cs.filter fun c => eligible rt c q) ∧
      (ranked.map RankedRoute.candidate).Nodup ∧
      ranked.map RankedRoute.rank = List.range' 1 ranked.length ∧
      ranked.Pairwise (fun a b => b.scoreBps < a.scoreBps ∨
        (a.scoreBps = b.scoreBps ∧ a.candidate.routeId < b.candidate.routeId)) ∧
      ∀ r ∈ ranked, (∀ p ∈ r.componentScores, 0 ≤ p.2 ∧ p.2 ≤ 10000) ∧
        0 ≤ r.scoreBps ∧ r.scoreBps ≤ 10000) ∧
    (∀ c, ∃ scores, components c q = .ok scores) ∧
    ∀ cs', cs.Perm cs' →
      (∀ ranked, rank rt weights cs q = .ok ranked ↔ rank rt weights cs' q = .ok ranked) ∧
      ((∃ e, rank rt weights cs q = .error e) ↔ ∃ e, rank rt weights cs' q = .error e) := by
  refine ⟨fun ranked h => ⟨?_, ?_, ?_, ?_, ?_⟩, fun c => ⟨_, components_eq_ok hamount.ne' c⟩, ?_⟩
  · obtain ⟨-, -, rfl⟩ := (rank_eq_ok hamount.ne').mp h
    exact perm_candidates
  · obtain ⟨hnodup, -, rfl⟩ := (rank_eq_ok hamount.ne').mp h
    exact perm_candidates.nodup_iff.mpr (hnodup.of_map.filter _)
  · obtain ⟨-, -, rfl⟩ := (rank_eq_ok hamount.ne').mp h
    rw [ranks_enumerateRanks, ← List.length_map fun r : RankedRoute =>
      (r.candidate, r.scoreBps, r.componentScores), map_enumerateRanks]
  · obtain ⟨hnodup, -, rfl⟩ := (rank_eq_ok hamount.ne').mp h
    have hahead : (order rt weights q cs).Pairwise ahead := ahead_order hnodup
    rw [← map_enumerateRanks 1 (order rt weights q cs), List.pairwise_map] at hahead
    exact hahead
  · intro r hr
    obtain ⟨-, hnormalized, heligible, hscore, hcomponents⟩ := scored_of_rank hamount.ne' h hr
    have hmeasured := measured_of_normalized hnormalized
    rw [hscore, hcomponents]
    exact ⟨componentScores_bounds hamount hbudget hmeasured heligible,
      scoreOf_bounds hamount hbudget hmeasured heligible⟩
  · intro cs' hperm
    have hsame : ∀ ranked, rank rt weights cs q = .ok ranked ↔ rank rt weights cs' q = .ok ranked :=
      fun ranked => rank_of_perm hamount.ne' hperm
    refine ⟨hsame, ?_⟩
    rw [exists_error_iff, exists_error_iff]
    exact not_congr (exists_congr hsame)

namespace Sample

/-- A payment of 1500 shillings with 1 shilling for its routing. -/
def request : RankingRequest where
  amountMinor := 150000
  currencyFrom := "KES"
  currencyTo := "KES"
  routingBudgetMinor := 100
  sourceInstitutionId := "BANK-A"
  destinationInstitutionId := "BANK-B"
  instant := 1

/-- A route with a given latency. -/
def offer (routeId : String) (latencyMs : Int) : RouteCandidate where
  routeId := routeId
  sourceInstitutionId := "BANK-A"
  destinationInstitutionId := "BANK-B"
  rail := "MOBILE"
  provider := "MPESA"
  adapter := "MPESA@1"
  currencyFrom := "KES"
  currencyTo := "KES"
  minAmountMinor := 1
  maxAmountMinor := 1000000
  latencyMs := latencyMs
  congestionBps := 0
  liquidityCapacityMinor := 1000000
  throughputHeadroomBps := 0
  speedBps := 0
  estimatedCostMinor := 10
  linkStatus := .up
  telemetryObservedAt := .aware 0
  telemetryExpiresAt := .aware 1000

end Sample

/-- Two offers are ranked in the same way in both orders. -/
theorem ranking_exact_offers : ∃ ranked,
    rank RailOne.Sample.runtime .default [Sample.offer "SLOW" 2000, Sample.offer "FAST" 100]
      Sample.request = .ok ranked ∧
    rank RailOne.Sample.runtime .default [Sample.offer "FAST" 100, Sample.offer "SLOW" 2000]
      Sample.request = .ok ranked ∧ ranked.map RankedRoute.rank = List.range' 1 ranked.length := by
  have hok : (rank RailOne.Sample.runtime .default [Sample.offer "SLOW" 2000, Sample.offer "FAST" 100]
      Sample.request).isOk = true := by decide +kernel
  obtain ⟨ranked, h⟩ := exists_of_isOk hok
  have hexact := @ranking_exact RailOne.Sample.runtime .default Sample.request
    [Sample.offer "SLOW" 2000, Sample.offer "FAST" 100] (by decide) (by decide)
  exact ⟨ranked, h, ((hexact.2.2 _ (List.Perm.swap _ _ _)).1 ranked).mp h, (hexact.1 ranked h).2.2.1⟩

/-! ## Monotonicity -/

/-- How good a link is. -/
def linkQuality : LinkStatus → ℕ
  | .up => 2
  | .degraded => 1
  | .down => 0

/-- In no metric is `a` worse than `b`. -/
structure NoWorse (a b : RouteCandidate) : Prop where
  latency : a.latencyMs ≤ b.latencyMs
  congestion : a.congestionBps ≤ b.congestionBps
  cost : a.estimatedCostMinor ≤ b.estimatedCostMinor
  liquidity : b.liquidityCapacityMinor ≤ a.liquidityCapacityMinor
  throughput : b.throughputHeadroomBps ≤ a.throughputHeadroomBps
  speed : b.speedBps ≤ a.speedBps
  link : linkQuality b.linkStatus ≤ linkQuality a.linkStatus

/-- A candidate that is nowhere worse is scored at least as high. -/
theorem scoreOf_mono (hamount : 0 < q.amountMinor) (hbudget : 0 ≤ q.routingBudgetMinor)
    {a b : RouteCandidate} (h : NoWorse a b) : scoreOf weights q b ≤ scoreOf weights q a := by
  have hlatency := h.latency
  have hcongestion := h.congestion
  have hliquidity : ((b.liquidityCapacityMinor - q.amountMinor) * 10000).fdiv q.amountMinor ≤
      ((a.liquidityCapacityMinor - q.amountMinor) * 10000).fdiv q.amountMinor :=
    fdiv_le_fdiv hamount.le (by have := h.liquidity; omega)
  have hcost : (a.estimatedCostMinor * 10000).fdiv q.routingBudgetMinor ≤
      (b.estimatedCostMinor * 10000).fdiv q.routingBudgetMinor :=
    fdiv_le_fdiv hbudget (by have := h.cost; omega)
  have hlink : (if b.linkStatus = .up then 10000 else 4000 : Int) ≤
      if a.linkStatus = .up then 10000 else 4000 := by
    have hquality := h.link
    cases ha : a.linkStatus <;> cases hb : b.linkStatus <;> simp_all [linkQuality]
  unfold scoreOf
  rw [componentScores_eq hamount.ne', componentScores_eq hamount.ne']
  refine weighted_mono ?_ ?_ ?_ h.throughput h.speed ?_ hlink
  · omega
  · omega
  · omega
  · split_ifs
    · exact le_rfl
    · omega

/-- In a strictly sorted list, the place of an element is the number of those ahead of it. -/
theorem countP_ahead {l₁ l₂ : List Scored} {s : Scored} (h : (l₁ ++ s :: l₂).Pairwise ahead) :
    (l₁ ++ s :: l₂).countP (fun t => ahead t s) = l₁.length := by
  obtain ⟨-, hright, hcross⟩ := List.pairwise_append.mp h
  have hleft : l₁.countP (fun t => ahead t s) = l₁.length :=
    List.countP_eq_length.mpr fun t ht => decide_eq_true (hcross t ht s List.mem_cons_self)
  have hrest : (s :: l₂).countP (fun t => ahead t s) = 0 := by
    refine List.countP_eq_zero.mpr fun t ht => ?_
    rw [decide_eq_true_eq]
    rcases List.mem_cons.mp ht with rfl | ht
    · exact fun hself => ahead_asymm hself hself
    · exact ahead_asymm (List.rel_of_pairwise_cons hright ht)
  rw [List.countP_append, hleft, hrest, Nat.add_zero]

/-- The rank of an element of an enumerated list. -/
theorem rank_of_mem_enumerateRanks {start : ℕ} {l : List Scored} {r : RankedRoute}
    (h : r ∈ enumerateRanks start l) : ∃ l₁ l₂, l = l₁ ++ (r.candidate, r.scoreBps, r.componentScores) :: l₂ ∧
      r.rank = start + l₁.length := by
  induction l generalizing start with
  | nil => cases h
  | cons s l ih =>
    rcases List.mem_cons.mp h with rfl | h
    · exact ⟨[], l, rfl, rfl⟩
    · obtain ⟨l₁, l₂, hl, hrank⟩ := ih h
      refine ⟨s :: l₁, l₂, by rw [hl, List.cons_append], ?_⟩
      rw [hrank, List.length_cons]
      omega

/-- The rank of a route counts the eligible candidates ahead of it. -/
theorem rank_eq_countP (hamount : q.amountMinor ≠ 0) (h : rank rt weights cs q = .ok ranked)
    {r : RankedRoute} (hr : r ∈ ranked) :
    r.rank = 1 + (cs.filter fun c => eligible rt c q).countP
      (fun c => ahead (scoredOf weights q c) (scoredOf weights q r.candidate)) := by
  obtain ⟨-, -, -, hscore, hcomponents⟩ := scored_of_rank hamount h hr
  have hscored : (r.candidate, r.scoreBps, r.componentScores) = scoredOf weights q r.candidate := by
    rw [hscore, hcomponents, scoredOf]
  obtain ⟨hnodup, -, rfl⟩ := (rank_eq_ok hamount).mp h
  obtain ⟨l₁, l₂, hl, hrank⟩ := rank_of_mem_enumerateRanks hr
  have hahead : (order rt weights q cs).Pairwise ahead := ahead_order hnodup
  rw [hscored] at hl
  rw [hl] at hahead
  have hcount := countP_ahead hahead
  rw [← hl, perm_order.countP_eq, List.countP_map] at hcount
  rw [hrank, ← hcount]
  rfl

/-- Of two routes of a ranking, one is ahead of the other and has the smaller rank. -/
theorem ahead_of_rank (hamount : q.amountMinor ≠ 0) (h : rank rt weights cs q = .ok ranked)
    {a b : RankedRoute} (ha : a ∈ ranked) (hb : b ∈ ranked) (hne : a ≠ b) :
    let before (x y : RankedRoute) : Prop := x.rank < y.rank ∧
      ahead (x.candidate, x.scoreBps, x.componentScores) (y.candidate, y.scoreBps, y.componentScores)
    before a b ∨ before b a := by
  intro before
  obtain ⟨hnodup, -, rfl⟩ := (rank_eq_ok hamount).mp h
  have hahead : (order rt weights q cs).Pairwise ahead := ahead_order hnodup
  rw [← map_enumerateRanks 1 (order rt weights q cs), List.pairwise_map] at hahead
  have hranks : ((enumerateRanks 1 (order rt weights q cs)).map RankedRoute.rank).Pairwise (· < ·) := by
    rw [ranks_enumerateRanks]
    exact List.pairwise_lt_range'
  have hbefore : (enumerateRanks 1 (order rt weights q cs)).Pairwise before :=
    (List.pairwise_map.mp hranks).and hahead
  have heither : (enumerateRanks 1 (order rt weights q cs)).Pairwise
      fun x y => before x y ∨ before y x := hbefore.imp Or.inl
  have : Std.Symm fun x y => before x y ∨ before y x := ⟨fun _ _ => Or.symm⟩
  exact heither.forall ha hb hne

/-- What is ahead of a candidate is ahead of one with the same route id that is nowhere better. -/
theorem ahead_of_noWorse (hamount : 0 < q.amountMinor) (hbudget : 0 ≤ q.routingBudgetMinor)
    {a b : RouteCandidate} (hid : a.routeId = b.routeId) (h : NoWorse a b) {s : Scored}
    (hs : ahead s (scoredOf weights q a)) : ahead s (scoredOf weights q b) := by
  have hmono : scoreOf weights q b ≤ scoreOf weights q a := scoreOf_mono hamount hbudget h
  simp only [ahead, scoredOf] at hs ⊢
  rcases hs with hlt | ⟨heq, hlt⟩
  · exact .inl (by omega)
  · rcases hmono.lt_or_eq with hscore | hscore
    · exact .inl (by omega)
    · exact .inr ⟨by omega, hid ▸ hlt⟩

/-- Scoring is monotone: a candidate that is nowhere worse than another is scored at least as high,
precedes it in every ranking unless the scores are equal and the route id of the other is smaller, and
making a candidate better never worsens its rank. -/
theorem scoring_monotone (hamount : 0 < q.amountMinor) (hbudget : 0 ≤ q.routingBudgetMinor) :
    (∀ a b, NoWorse a b → scoreOf weights q b ≤ scoreOf weights q a) ∧
    (∀ cs ranked, rank rt weights cs q = .ok ranked → ∀ ra ∈ ranked, ∀ rb ∈ ranked, ra ≠ rb →
      NoWorse ra.candidate rb.candidate → rb.scoreBps ≤ ra.scoreBps ∧ (ra.rank < rb.rank ∨
        (ra.scoreBps = rb.scoreBps ∧ rb.candidate.routeId < ra.candidate.routeId))) ∧
    ∀ l₁ l₂ a b ranked ranked', a.routeId = b.routeId → NoWorse a b →
      rank rt weights (l₁ ++ b :: l₂) q = .ok ranked → rank rt weights (l₁ ++ a :: l₂) q = .ok ranked' →
      ∀ rb ∈ ranked, rb.candidate = b → ∀ ra ∈ ranked', ra.candidate = a → ra.rank ≤ rb.rank := by
  refine ⟨fun a b h => scoreOf_mono hamount hbudget h, ?_, ?_⟩
  · intro cs ranked h ra hra rb hrb hne hworse
    obtain ⟨-, -, -, hscore, -⟩ := scored_of_rank hamount.ne' h hra
    obtain ⟨-, -, -, hscore', -⟩ := scored_of_rank hamount.ne' h hrb
    have hmono : rb.scoreBps ≤ ra.scoreBps := by
      rw [hscore, hscore']
      exact scoreOf_mono hamount hbudget hworse
    refine ⟨hmono, ?_⟩
    rcases ahead_of_rank hamount.ne' h hra hrb hne with ⟨hrank, -⟩ | ⟨-, hlt | ⟨heq, hid⟩⟩
    · exact .inl hrank
    · exact absurd hmono (not_le.mpr hlt)
    · exact .inr ⟨heq.symm, hid⟩
  · rintro l₁ l₂ a b ranked ranked' hid hworse h h' rb hrb rfl ra hra rfl
    -- the other candidates are the same, and the ranks count those ahead
    have heligible := (scored_of_rank hamount.ne' h hrb).2.2.1
    have heligible' := (scored_of_rank hamount.ne' h' hra).2.2.1
    rw [rank_eq_countP hamount.ne' h hrb, rank_eq_countP hamount.ne' h' hra]
    have hself : ∀ c, ¬ ahead (scoredOf weights q c) (scoredOf weights q c) :=
      fun c hc => ahead_asymm hc hc
    have hle : ∀ l : List RouteCandidate,
        l.countP (fun c => ahead (scoredOf weights q c) (scoredOf weights q ra.candidate)) ≤
          l.countP (fun c => ahead (scoredOf weights q c) (scoredOf weights q rb.candidate)) := by
      intro l
      refine List.countP_mono_left fun c _ hc => ?_
      rw [decide_eq_true_eq] at hc ⊢
      exact ahead_of_noWorse hamount hbudget hid hworse hc
    have hleft := hle (l₁.filter fun c => eligible rt c q)
    have hright := hle (l₂.filter fun c => eligible rt c q)
    have hsplit : ∀ (c : RouteCandidate) (p : RouteCandidate → Bool), eligible rt c q = true → p c = false →
        ((l₁ ++ c :: l₂).filter fun c => eligible rt c q).countP p =
          (l₁.filter fun c => eligible rt c q).countP p +
            (l₂.filter fun c => eligible rt c q).countP p := by
      intro c p hc hp
      rw [List.filter_append, List.filter_cons, if_pos hc, List.countP_append,
        List.countP_cons_of_neg (by simp [hp])]
    rw [hsplit _ _ heligible (decide_eq_false (hself _)),
      hsplit _ _ heligible' (decide_eq_false (hself _))]
    omega

/-- A faster offer is not ranked below the slower one. -/
theorem scoring_monotone_offers :
    scoreOf .default Sample.request (Sample.offer "SLOW" 2000) ≤
      scoreOf .default Sample.request (Sample.offer "FAST" 100) := by
  refine (@scoring_monotone RailOne.Sample.runtime .default Sample.request (by decide) (by decide)).1 _ _
    ⟨?_, ?_, ?_, ?_, ?_, ?_, ?_⟩ <;> decide

end DeterministicRouteScorer

end RailOne
