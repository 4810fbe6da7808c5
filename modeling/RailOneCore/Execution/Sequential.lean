import RailOneCore.Execution.Runs

/-!
# Calls executed one after another

When the calls of the planner and of the attempt service are executed one after another, with the
identifiers passed as they were issued, every plan agrees with its attempts to the letter:
`ExecutionPlan.Orderly`.  Terminal statuses are absorbing, and a call that raises leaves plans and
attempts as they were, because its only commit is its last step.
-/

namespace RailOne

open Concurrent Ordered

/-- A call of the planner or of the attempt service that passes an identifier as it was issued. -/
def Call.PassesIssuedId : Call → Prop
  | .buildPlan uttId _ _ => strip uttId = uttId
  | .startNext uttId _ => strip uttId = uttId
  | .recordFailure rttId .. => strip rttId = rttId
  | .recordSuccess rttId .. => strip rttId = rttId
  | .resolveReconciliation rttId .. => strip rttId = rttId
  | _ => False

/-- The attempt limits of the stored UTTs are not negative.  Quotes are issued with limits from 1 to
10, and acceptance copies the limit. -/
def ContractStore.LimitsAttempts (st : ContractStore) : Prop :=
  ∀ id utt n, st.utts.get? id = some utt → utt.payload.get "max_attempts" = some (.int n) → 0 ≤ n

/-- What a plan says about its attempts, to the letter. -/
structure ExecutionPlan.Orderly (p : ExecutionPlan) (as : List RttAttemptRecord) : Prop where
  /-- The pointer names the one and only open attempt. -/
  current : ∀ r, p.currentRttId = some r ↔
    ∃ a ∈ as, a.rttId = r ∧ a.state.isOpen = true ∧ ∀ b ∈ as, b.state.isOpen = true → b = a
  awaiting : p.status = .reconciliationRequired ↔
    ∃ a ∈ as, p.currentRttId = some a.rttId ∧ a.state = .reconciliationRequired
  used : p.attemptsUsed = as.length
  numbers : as.map RttAttemptRecord.attemptNumber = List.range' 1 p.attemptsUsed
  limit : p.attemptsUsed ≤ p.maxAttempts
  finalized : p.status = .finalized ↔ ∃! a, a ∈ as ∧ a.state = .succeeded
  successful : ∀ a ∈ as, a.state = .succeeded → p.successfulRouteId = some a.routeId
  once : ∀ a ∈ as, ∀ b ∈ as, a.state = .succeeded → b.state = .succeeded → a = b

/-- A plan that agrees with its attempts is orderly when its pointer is trimmed. -/
theorem ExecutionPlan.Agrees.orderly {p : ExecutionPlan} {as : List RttAttemptRecord}
    (h : p.Agrees as) (htrim : ∀ c, p.currentRttId = some c → strip c = c)
    (hlimit : 0 ≤ p.maxAttempts) : p.Orderly as := by
  have honce : ∀ a ∈ as, ∀ b ∈ as, a.state = .succeeded → b.state = .succeeded → a = b :=
    fun a ha b hb hsa hsb => List.inj_on_of_nodup_map h.ids ha hb (h.once a ha b hb hsa hsb)
  refine ⟨fun r => ⟨fun hr => ?_, ?_⟩, ⟨fun hs => ?_, ?_⟩, ?_, h.numbers, ?_, ⟨fun hs => ?_, ?_⟩,
    h.successful, honce⟩
  · obtain ⟨a, ha, hid⟩ := h.current r hr
    have hopen := (h.inFlight a ha).mpr ⟨r, hr, hid.symm⟩
    exact ⟨a, ha, hid.trans (htrim r hr), hopen, fun b hb hb' => h.eq_of_open hb ha hb' hopen⟩
  · rintro ⟨a, ha, rfl, hopen, -⟩
    obtain ⟨c, hc, hid⟩ := (h.inFlight a ha).mp hopen
    rw [hc, ← hid, htrim c hc]
  · obtain ⟨a, ha, hstate⟩ := h.awaiting.mp hs
    obtain ⟨c, hc, hid⟩ := (h.inFlight a ha).mp (by rw [hstate]; rfl)
    exact ⟨a, ha, by rw [hc, ← hid, htrim c hc], hstate⟩
  · rintro ⟨a, ha, -, hstate⟩
    exact h.awaiting.mpr ⟨a, ha, hstate⟩
  · have hlen := congrArg List.length h.numbers
    simpa using hlen.symm
  · rcases h.limit with hzero | hle
    · rw [hzero]
      exact hlimit
    · exact hle
  · obtain ⟨a, ha, hstate⟩ := h.finalized.mp hs
    exact ⟨a, ⟨ha, hstate⟩, fun b hb => honce b hb.1 a ha hb.2 hstate⟩
  · rintro ⟨a, ⟨ha, hstate⟩, -⟩
    exact h.finalized.mpr ⟨a, ha, hstate⟩

/-! ## The invariant of sequential runs -/

/-- Besides being consistent, the store holds trimmed pointers and limits that are not negative. -/
structure ExecutionStore.Tidy (st : ExecutionStore) : Prop where
  consistent : st.Consistent
  pointers : ∀ {id p c}, st.plans.get? id = some p → p.currentRttId = some c → strip c = c
  limits : ∀ {id p}, st.plans.get? id = some p → 0 ≤ p.maxAttempts

namespace ExecutionStore.Tidy

theorem empty : Tidy ExecutionStore.empty :=
  ⟨.empty, by simp [ExecutionStore.empty], by simp [ExecutionStore.empty]⟩

/-- Every plan of a tidy store is orderly. -/
theorem orderly {st : ExecutionStore} (h : st.Tidy) {id : String} {p : ExecutionPlan}
    (hp : st.plans.get? id = some p) : p.Orderly (st.attemptsOf id) :=
  (h.consistent.agrees hp).orderly (fun _ => h.pointers hp) (h.limits hp)

/-- What is assumed of new plans in sequential runs. -/
def rules : ExecutionRules := ⟨False, fun p => 0 ≤ p.maxAttempts, fun _ _ => True⟩

/-- The invariant survives every effect of a call that names its RTT trimmed. -/
theorem effect {cause : ExecutionCause} {s s' : ExecutionStore}
    (h : ExecutionEffect rules cause s s')
    (hcause : ∀ rttId disposition, cause = .recordFailure rttId disposition → strip rttId = rttId)
    (hs : s.Tidy) : s'.Tidy := by
  have hcons := h.consistent hs.consistent
  cases h with
  | unchanged => exact hs
  | planned p hc hutt hid hnew hknown =>
    refine ⟨hcons, ?_, ?_⟩
    · intro id q c hq hcur
      rw [Dict.get?_set] at hq
      split_ifs at hq
      · cases hq
        rw [hnew.2.1] at hcur
        cases hcur
      · exact hs.pointers hq hcur
    · intro id q hq
      rw [Dict.get?_set] at hq
      split_ifs at hq
      · cases hq
        exact hknown
      · exact hs.limits hq
  | started p p' a hc hp hsame hversion hready hplan' hfresh hstrip hlineage hnew hknown =>
    refine ⟨hcons, ?_, ?_⟩
    · intro id q c hq hcur
      rw [ExecutionStore.plans_put, Dict.get?_set] at hq
      split_ifs at hq
      · cases hq
        rw [hplan'.2.1] at hcur
        cases hcur
        exact hstrip
      · exact hs.pointers hq hcur
    · intro id q hq
      rw [ExecutionStore.plans_put, Dict.get?_set] at hq
      split_ifs at hq
      · cases hq
        rw [hsame.maxAttempts]
        exact hs.limits hp
      · exact hs.limits hq
  | closed p p' a a' hc hlive hp hsame hversion hused ha hplan hcurrent hattempt hcloses hname
      hreported hcreated =>
    refine ⟨hcons, ?_, ?_⟩
    · intro id q c hq hcur
      rw [ExecutionStore.plans_put, Dict.get?_set] at hq
      split_ifs at hq
      · cases hq
        obtain ⟨disposition, hdisp⟩ := hname c hcur
        exact hcause c disposition hdisp
      · exact hs.pointers hq hcur
    · intro id q hq
      rw [ExecutionStore.plans_put, Dict.get?_set] at hq
      split_ifs at hq
      · cases hq
        rw [hsame.maxAttempts]
        exact hs.limits hp
      · exact hs.limits hq

end ExecutionStore.Tidy

namespace Execution

variable {d : Deployment} {w₀ w w' : World} {c : Call}

/-- Plans of UTTs with limits that are not negative have such limits. -/
theorem ensures_tidyRules (hutts : w₀.contracts.LimitsAttempts) :
    Ensures d (fun _ _ w => w.contracts = w₀.contracts) ExecutionStore.Tidy.rules := by
  refine ⟨False.elim, fun _ plan horigin => ?_, fun _ _ _ _ => trivial⟩
  obtain ⟨w, signedUtt, candidates, instant, hw, hget, hdraft⟩ := horigin.draft
  obtain ⟨request, ranked, planId, maxAttempts, -, -, hmax, heq⟩ :=
    ExecutionPlanningService.draft_eq_ok hdraft
  have hlimit : plan.maxAttempts = maxAttempts := congrArg ExecutionPlan.maxAttempts heq
  change 0 ≤ plan.maxAttempts
  rw [hlimit]
  rw [hw] at hget
  exact hutts _ _ _ hget (Fields.intItem_eq_ok.mp hmax)

theorem trimmed_of_cause (hc : c.PassesIssuedId) {rttId : String}
    {disposition : FailureDisposition} (h : c.cause = .recordFailure rttId disposition) :
    strip rttId = rttId := by
  cases c with
  | recordFailure =>
    cases h
    exact hc
  | _ => cases h

theorem contracts_notMem_parts (hc : c.PassesIssuedId) : Part.contracts ∉ c.parts := by
  cases c <;> first | exact hc.elim | simp [Call.parts]

/-- A call executed without interference keeps the invariant and moves the store forward. -/
theorem tidy_of_runs (hutts : w₀.contracts.LimitsAttempts) (hc : c.PassesIssuedId)
    (hw : w.contracts = w₀.contracts) (hs : w.executions.Tidy) {r : Except Exn Reply}
    (h : (c.body d).Runs (World.sem d.rt) w r w') :
    w'.contracts = w₀.contracts ∧ w'.executions.Tidy ∧ w.executions.Evolves w'.executions := by
  have hkeeps : ∀ (o : Op) (s : World) (a : o.Resp) (s' : World), o.part ≠ .contracts →
      s.contracts = w₀.contracts → World.sem d.rt o s a s' → s'.contracts = w₀.contracts :=
    fun o s a s' ho hs hsem => ((World.frame_of_sem hsem).contracts ho).trans hs
  have hguard : ∀ (_ : Op) (s : World), s.contracts = w₀.contracts →
      s.contracts = w₀.contracts := fun _ _ hs => hs
  obtain ⟨hrun, hw'⟩ :=
    Prog.Runs.guarded hkeeps hguard (ops_body_ne d (contracts_notMem_parts hc)) hw h
  have hsafe : Respects d (fun _ w => w.contracts = w₀.contracts) ExecutionStore.Tidy.rules
      c.cause c.named (c.body d) w := respects_body (ensures_tidyRules hutts) c w
  obtain ⟨-, hchain, -⟩ := Safe.runs hsafe hs.consistent le_rfl hrun
  -- each effect of the call keeps the invariant
  have hinv : w'.executions.Tidy ∧ w.executions.Evolves w'.executions := by
    clear hrun h hw'
    induction hchain with
    | refl => exact ⟨hs, .refl _⟩
    | tail _ heff ih =>
      obtain ⟨o, heff, -⟩ := heff
      exact ⟨.effect heff (fun _ _ => trimmed_of_cause hc) ih.1, ih.2.trans heff.evolves⟩
  exact ⟨hw', hinv⟩

/-- The invariant of sequential runs. -/
theorem tidy_of_sequentially (hutts : w₀.contracts.LimitsAttempts)
    (hw : w.contracts = w₀.contracts) (hs : w.executions.Tidy)
    (h : (system d).Sequentially Call.PassesIssuedId w w') :
    w'.contracts = w₀.contracts ∧ w'.executions.Tidy ∧ w.executions.Evolves w'.executions := by
  induction h with
  | nil => exact ⟨hw, hs, .refl _⟩
  | call h c r hc hr ih =>
    obtain ⟨hw₁, hs₁, he₁⟩ := ih
    obtain ⟨hw₂, hs₂, he₂⟩ := tidy_of_runs hutts hc hw₁ hs₁ hr
    exact ⟨hw₂, hs₂, he₁.trans he₂⟩

/-! ## Calls that raise -/

/-- The answer is an exception. -/
def Refused (o : Op) (r : o.Resp) : Prop := ∃ e, r = .error e

/-- An operation that raises leaves the execution store alone. -/
theorem executions_of_refused {rt : Runtime} {o : Op} {w w' : World} {r : o.Resp}
    (hr : Refused o r) (h : World.sem rt o w r w') : w'.executions = w.executions := by
  obtain ⟨e, rfl⟩ := hr
  by_cases hpart : o.part = .executions
  · cases o <;> simp only [Op.part, reduceCtorEq] at hpart
    case createPlan =>
      rcases (sem_createPlan.mp h).cases with ⟨_, _, _, hok, -⟩ | ⟨_, -, -, rfl⟩
      · cases hok
      · rfl
    case commitStart =>
      rcases (sem_commitStart.mp h).cases with ⟨_, _, _, hok, -⟩ | ⟨_, -, -, rfl⟩
      · cases hok
      · rfl
    case commitTransition =>
      rcases (sem_commitTransition.mp h).cases with ⟨_, _, _, hok, -⟩ | ⟨_, -, -, rfl⟩
      · cases hok
      · rfl
  · exact (World.frame_of_sem h).executions hpart

/-- A program that ends with one commit. -/
theorem commitLast_call {α : Type} {Read : Op → Prop} (o : Op) (f : o.Ret → α) :
    (call o >>= fun a => (pure (f a) : Code α)).CommitLast Read Refused :=
  Prog.commitLast_call o f

section CommitLast

variable {uttId rttId : String} {cost : Int} {at_ : Datetime}

theorem commitLast_buildPlan {candidates : List RouteCandidate} :
    (ExecutionPlanningService.buildPlan d uttId candidates at_).CommitLast
      (fun o => o.part ≠ .executions) Refused := by
  unfold ExecutionPlanningService.buildPlan Code.createPlan
  repeat' first
    | with_reducible exact Prog.ops_liftM _
    | ((with_reducible refine ops_requireUtt.mpr ?_); nofun)
    | ((with_reducible refine ops_requireValid ?_); nofun)
    | with_reducible refine Prog.CommitLast.bind ?_ fun _ => ?_
  rw [← Prog.bind_ret (call _)]
  exact commitLast_call _ _

theorem commitLast_startNext :
    (RttAttemptService.startNext d uttId at_).CommitLast (fun o => o.part ≠ .executions)
      Refused := by
  unfold RttAttemptService.startNext Code.commitStart
  simp only [Prog.bind_assoc]
  repeat' first
    | with_reducible exact commitLast_call _ _
    | with_reducible exact Prog.ops_liftM _
    | ((with_reducible refine ops_requireUtt.mpr ?_); rintro ⟨⟩)
    | ((with_reducible refine ops_requireValid ?_); rintro ⟨⟩)
    | ((with_reducible refine ops_requirePlanForUtt.mpr ?_); rintro ⟨⟩)
    | ((with_reducible refine ops_sign.mpr ?_); rintro ⟨⟩)
    | with_reducible refine Prog.CommitLast.bind ?_ fun _ => ?_
  exact RttAttemptService.ops_validateEndpoints.mono fun _ h => by simp [h]

theorem commitLast_recordFailure {code : String} {disposition : FailureDisposition} :
    (RttAttemptService.recordFailure d rttId code disposition cost at_).CommitLast
      (fun o => o.part ≠ .executions) Refused := by
  unfold RttAttemptService.recordFailure Code.commitTransition
  repeat' first
    | with_reducible exact commitLast_call _ _
    | with_reducible exact Prog.ops_liftM _
    | ((with_reducible refine ops_requireAttempt.mpr ?_); nofun)
    | ((with_reducible refine ops_requirePlan.mpr ?_); nofun)
    | with_reducible refine Prog.CommitLast.bind ?_ fun _ => ?_

theorem commitLast_recordSuccess :
    (RttAttemptService.recordSuccess rttId cost at_).CommitLast (fun o => o.part ≠ .executions)
      Refused := by
  unfold RttAttemptService.recordSuccess Code.commitTransition
  repeat' first
    | with_reducible exact commitLast_call _ _
    | with_reducible exact Prog.ops_liftM _
    | ((with_reducible refine ops_requireAttempt.mpr ?_); nofun)
    | ((with_reducible refine ops_requirePlan.mpr ?_); nofun)
    | with_reducible refine Prog.CommitLast.bind ?_ fun _ => ?_

theorem commitLast_resolveReconciliation {succeeded : Bool} {code : Option String}
    {disposition : FailureDisposition} :
    (RttAttemptService.resolveReconciliation d rttId succeeded cost code disposition at_).CommitLast
      (fun o => o.part ≠ .executions) Refused := by
  unfold RttAttemptService.resolveReconciliation Code.commitTransition
  repeat' first
    | with_reducible exact commitLast_call _ _
    | with_reducible exact Prog.ops_liftM _
    | ((with_reducible refine ops_requireAttempt.mpr ?_); nofun)
    | ((with_reducible refine ops_requirePlan.mpr ?_); nofun)
    | with_reducible refine Prog.CommitLast.bind ?_ fun _ => ?_

/-- The calls of the planner and of the attempt service commit last. -/
theorem commitLast_body (hc : c.PassesIssuedId) :
    (c.body d).CommitLast (fun o => o.part ≠ .executions) Refused := by
  cases c with
  | buildPlan => exact commitLast_buildPlan.map _
  | startNext => exact commitLast_startNext.map _
  | recordFailure => exact commitLast_recordFailure.map _
  | recordSuccess => exact commitLast_recordSuccess.map _
  | resolveReconciliation => exact commitLast_resolveReconciliation.map _
  | issueQuote | accept | prepare | dispatch | publishBatch => exact hc.elim

end CommitLast

/-- A call of the planner or of the attempt service that raises leaves the execution store alone. -/
theorem executions_of_raise (hc : c.PassesIssuedId) {e : Exn}
    (h : (c.body d).Runs (World.sem d.rt) w (.error e) w') : w'.executions = w.executions := by
  refine (commitLast_body hc).unchanged_of_error World.executions ?_ ?_ h
  · exact fun _ _ _ _ ho hsem => (World.frame_of_sem hsem).executions ho
  · exact fun _ _ _ _ hr hsem => executions_of_refused hr hsem

end Execution

/-- In every sequential run from an empty store, every plan is orderly, terminal plans never change
again, and calls that raise leave plans and attempts as they were. -/
theorem orderly_of_sequential_run {d : Deployment} {w₀ w : World} (h₀ : w₀.executions = .empty)
    (hutts : w₀.contracts.LimitsAttempts)
    (h : (system d).Sequentially Call.PassesIssuedId w₀ w) :
    (∀ id p, w.executions.plans.get? id = some p → p.Orderly (w.executions.attemptsOf id)) ∧
      (∀ w', (system d).Sequentially Call.PassesIssuedId w w' → ∀ id p,
        w.executions.plans.get? id = some p → p.status.isTerminal = true →
          w'.executions.plans.get? id = some p) ∧
      ∀ c e w', Call.PassesIssuedId c → (c.body d).Runs (World.sem d.rt) w (.error e) w' →
        w'.executions = w.executions := by
  obtain ⟨hw, hs, -⟩ := Execution.tidy_of_sequentially hutts rfl (h₀ ▸ .empty) h
  refine ⟨fun id p hp => hs.orderly hp, fun w' h' id p hp hterm => ?_, fun c e w' hc hr => ?_⟩
  · obtain ⟨-, -, hevolves⟩ := Execution.tidy_of_sequentially hutts hw hs h'
    obtain ⟨p', hp', -, -, -, hsame⟩ := hevolves.plan hp
    rw [hp', hsame hterm]
  · exact Execution.executions_of_raise hc hr

/-! ## The sample -/

namespace Sample

/-- The UTT is planned, attempted and finalized. -/
def payment : List Call :=
  [.buildPlan "UTT-1" [route "A" 100, route "B" 200] (.aware 0), .startNext "UTT-1" (.aware 0),
    .recordSuccess "RTT-d106" 10 (.aware 0)]

theorem payment_outcome :
    ((runAll payment).executions.plans.get? "PLAN-ce74").map ExecutionPlan.status =
      some .finalized := by
  decide +kernel

theorem utt_payload : utt.payload = uttPayload := by decide +kernel

theorem maxAttempts_of_world {id : String} {e : SignatureEnvelope} {n : Int}
    (he : world.contracts.utts.get? id = some e)
    (hn : e.payload.get "max_attempts" = some (.int n)) : n = 3 := by
  have hutt : e = utt := by
    change (Dict.empty.set "UTT-1" utt).get? id = some e at he
    rw [Dict.get?_set, Dict.get?_empty] at he
    split_ifs at he
    exact (Option.some.inj he).symm
  subst hutt
  rw [utt_payload] at hn
  have hthree : uttPayload.get "max_attempts" = some (.int 3) := by decide
  rw [hthree] at hn
  cases hn
  rfl

theorem limitsAttempts_world : world.contracts.LimitsAttempts := by
  intro id e n he hn
  have hthree := maxAttempts_of_world he hn
  omega

end Sample

/-- The finalized plan of the sample is orderly. -/
theorem orderly_of_sequential_run_sample :
    ∃ p, (Sample.runAll Sample.payment).executions.plans.get? "PLAN-ce74" = some p ∧
      p.status = .finalized ∧
      p.Orderly ((Sample.runAll Sample.payment).executions.attemptsOf "PLAN-ce74") := by
  obtain ⟨p, hp, hstatus⟩ := Option.map_eq_some_iff.mp Sample.payment_outcome
  have hissued : ∀ c ∈ Sample.payment, c.PassesIssuedId := by
    simp only [Sample.payment, List.forall_mem_cons, Call.PassesIssuedId]
    refine ⟨?_, ?_, ?_, ?_⟩
    · decide
    · decide
    · decide
    · simp
  exact ⟨p, hp, hstatus, (orderly_of_sequential_run rfl Sample.limitsAttempts_world
    (Sample.sequentially_runAll hissued)).1 _ p hp⟩

end RailOne
