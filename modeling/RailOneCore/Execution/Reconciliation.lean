import RailOneCore.Execution.Runs

/-!
# Attempts that await reconciliation

An attempt whose outcome is unknown is parked until `resolve_reconciliation` decides it.  Reports of
outcomes read the attempt and the plan in two steps, and the compare-and-swap of the commit covers
only the plan.  A report that has read the attempt before it was parked, and reads the plan
afterwards, therefore commits over the parked attempt.  As long as no report reads its plan while its
attempt is parked, parked attempts are left by resolutions only.
-/

namespace RailOne

open Concurrent Ordered

/-- The call resolves a reconciliation. -/
def Call.isResolution : Call → Bool
  | .resolveReconciliation .. => true
  | _ => false

/-- The step is a `commit_transition`. -/
def Op.isCommitTransition : Op → Bool
  | .commitTransition .. => true
  | _ => false

/-- The step `o` of the call `c` respects parked attempts: they stay parked unless this is the commit
of a resolution, and no attempt of their plans is started. -/
structure KeepsParked (c : Call) (o : Op) (s s' : ExecutionStore) : Prop where
  stays : ∀ r a, s.attempts.get? r = some a → a.state = .reconciliationRequired →
    ∃ a', s'.attempts.get? r = some a' ∧ (a'.state = .reconciliationRequired ∨
      c.isResolution = true ∧ o.isCommitTransition = true)
  noStart : ∀ r a, s.attempts.get? r = some a → a.state = .reconciliationRequired →
    ∀ r' b, s'.attempts.get? r' = some b → b.planId = a.planId → ∃ b', s.attempts.get? r' = some b'

/-- The step is not the plan read of a report whose attempt is parked. -/
def freshReport (c : Call) (o : Op) (w : World) : Bool :=
  match c.reported, o with
  | some rttId, .requirePlan _ =>
    (w.executions.attempts.get? (strip rttId)).map RttAttemptRecord.state ≠
      some .reconciliationRequired
  | _, _ => true

namespace Execution

theorem keepsReportsFresh_freshReport :
    KeepsReportsFresh fun c o w => freshReport c o w = true := by
  intro c rttId planId w hc hguard b hb hparked
  simp [freshReport, hc, hb, hparked] at hguard

/-- A step that changes a stored attempt is a `commit_transition`. -/
theorem isCommitTransition_of_sem {rt : Runtime} {o : Op} {w w' : World} {res : o.Resp}
    (h : World.sem rt o w res w') {r : String} {a a' : RttAttemptRecord}
    (ha : w.executions.attempts.get? r = some a) (ha' : w'.executions.attempts.get? r = some a')
    (hne : a' ≠ a) : o.isCommitTransition = true := by
  have hsame : ∀ st : ExecutionStore, st.attempts.get? r = some a →
      st.attempts.get? r = some a' → False := by
    intro st h₁ h₂
    rw [h₁, Option.some.injEq] at h₂
    exact hne h₂.symm
  by_cases hpart : o.part = .executions
  · cases o <;> simp only [Op.part, reduceCtorEq] at hpart
    case commitTransition => rfl
    case createPlan plan =>
      rcases (sem_createPlan.mp h).cases with ⟨p, st, hst, -, rfl⟩ | ⟨e, -, -, rfl⟩
      · rcases ExecutionStore.createPlan_eq_ok hst with ⟨rfl, -⟩ | ⟨-, -, rfl⟩
        · exact (hsame _ ha ha').elim
        · exact (hsame w.executions ha ha').elim
      · exact (hsame _ ha ha').elim
    case commitStart v plan b =>
      rcases (sem_commitStart.mp h).cases with ⟨u, st, hst, -, rfl⟩ | ⟨e, -, -, rfl⟩
      · obtain ⟨rfl, -, -, hfresh, -⟩ := ExecutionStore.commitStart_eq_ok hst
        rw [ExecutionStore.attempts_put, Dict.get?_set] at ha'
        split_ifs at ha' with heq
        · rw [heq, hfresh] at ha
          cases ha
        · exact (hsame _ ha ha').elim
      · exact (hsame _ ha ha').elim
  · rw [(World.frame_of_sem h).executions hpart, ha] at ha'
    cases ha'
    exact absurd rfl hne

/-- A commit that is no report can only be one of a resolution. -/
theorem resolve_of_mayReach {cause : ExecutionCause} {status : PlanStatus}
    (h : cause.mayReach status = true) (hrecord : cause.isRecord = false) : cause = .resolve := by
  cases cause with
  | resolve => rfl
  | plan | start | other => cases h
  | recordFailure | recordSuccess => cases hrecord

theorem isResolution_of_cause {c : Call} (h : c.cause = .resolve) : c.isResolution = true := by
  cases c <;> first | rfl | cases h

/-- Under strict effects, parked attempts stay parked unless a resolution commits. -/
theorem parked_of_effect {rules : ExecutionRules} {cause : ExecutionCause} {s s' : ExecutionStore}
    (h : ExecutionEffect rules cause s s') (hstrict : rules.strict) {r : String}
    {a : RttAttemptRecord}
    (ha : s.attempts.get? r = some a) (hparked : a.state = .reconciliationRequired) :
    ∃ a', s'.attempts.get? r = some a' ∧
      (a' = a ∨ a'.state = .reconciliationRequired ∨ cause = .resolve) := by
  cases h with
  | unchanged => exact ⟨a, ha, .inl rfl⟩
  | planned p hcause hutt hid hnew hknown => exact ⟨a, ha, .inl rfl⟩
  | started p p' b hcause hp hsame hversion hready hplan' hfresh hstrip hlineage hnew
      hknown =>
    refine ⟨a, ?_, .inl rfl⟩
    rw [ExecutionStore.attempts_put, Dict.get?_set, if_neg ?_]
    · exact ha
    · rintro rfl
      rw [hfresh] at ha
      cases ha
  | closed p p' b b' hcause hlive hp hsame hversion hused hb hplan hcurrent hattempt hcloses
      hname hreported hcreated =>
    rw [ExecutionStore.attempts_put]
    by_cases heq : r = b'.rttId
    · refine ⟨b', by rw [heq, Dict.get?_set_self], .inr (.inr ?_)⟩
      rw [heq, hattempt.rttId, hb] at ha
      cases ha
      refine resolve_of_mayReach hcause ?_
      by_contra hrecord
      rw [hcreated hstrict (by simpa using hrecord)] at hparked
      cases hparked
    · exact ⟨a, by rw [Dict.get?_set, if_neg heq]; exact ha, .inl rfl⟩

/-- A plan with a parked attempt starts no other one. -/
theorem no_start_of_effect {rules : ExecutionRules} {cause : ExecutionCause} {s s' : ExecutionStore}
    (hs : s.Consistent) (h : ExecutionEffect rules cause s s') {r r' : String}
    {a b : RttAttemptRecord} (ha : s.attempts.get? r = some a)
    (hparked : a.state = .reconciliationRequired) (hb : s'.attempts.get? r' = some b)
    (hplan : b.planId = a.planId) : ∃ b', s.attempts.get? r' = some b' := by
  cases h with
  | unchanged => exact ⟨b, hb⟩
  | planned p hcause hutt hid hnew hknown => exact ⟨b, hb⟩
  | started p p' c hcause hp hsame hversion hready hplan' hfresh hstrip hlineage hnew
      hknown =>
    rw [ExecutionStore.attempts_put, Dict.get?_set] at hb
    split_ifs at hb with heq
    · -- the plan of a parked attempt is not active
      cases hb
      have hmem : a ∈ s.attemptsOf p.planId :=
        ExecutionStore.mem_attemptsOf.mpr ⟨⟨r, ha⟩, hplan.symm.trans hlineage.1⟩
      have hstatus := (hs.agrees hp).awaiting.mpr ⟨a, hmem, hparked⟩
      rw [hready.1] at hstatus
      cases hstatus
    · exact ⟨b, hb⟩
  | closed p p' c c' hcause hlive hp hsame hversion hused hc hplan' hcurrent hattempt hcloses
      hname hreported hcreated =>
    rw [ExecutionStore.attempts_put, Dict.get?_set] at hb
    split_ifs at hb with heq
    · exact ⟨c, by rw [heq, hattempt.rttId]; exact hc⟩
    · exact ⟨b, hb⟩

end Execution

/-- In every run in which no report reads its plan while its attempt is parked, parked attempts are
left only by the commits of resolutions, and their plans start no attempt before that. -/
theorem parked_until_resolution {d : Deployment} {w₀ : World}
    {x y : Config Op.Resp Call Exn Reply World} {i : ℕ} {c : Call} {o : Op}
    (h₀ : w₀.executions = .empty)
    (hx : ((system d).guarded fun c o w => freshReport c o w = true).Reachable w₀ x)
    (h : ((system d).guarded fun c o w => freshReport c o w = true).Performs i c o x y) :
    KeepsParked c o x.state.executions y.state.executions := by
  have hempty : w₀.executions.Consistent := h₀ ▸ .empty
  have hensures : Execution.Ensures d (fun c o w => freshReport c o w = true)
      ⟨True, fun _ => True, fun _ _ => True⟩ :=
    ⟨fun _ => Execution.keepsReportsFresh_freshReport, fun _ _ _ => trivial,
      fun _ _ _ _ => trivial⟩
  have heff := Execution.effect_of_performs hensures hempty hx h
  refine ⟨fun r a ha hparked => ?_, fun r a ha hparked r' b hb hplan => ?_⟩
  · obtain ⟨a', ha', hcases⟩ := Execution.parked_of_effect heff trivial ha hparked
    refine ⟨a', ha', ?_⟩
    by_cases hstate : a'.state = .reconciliationRequired
    · exact .inl hstate
    · have hne : a' ≠ a := fun heq => hstate (heq ▸ hparked)
      obtain ⟨k, res, -, hsem, -⟩ := h
      rcases hcases with rfl | hrec | hcause
      · exact absurd rfl hne
      · exact .inl hrec
      · exact .inr ⟨Execution.isResolution_of_cause hcause,
          Execution.isCommitTransition_of_sem hsem.2 ha ha' hne⟩
  · exact Execution.no_start_of_effect
      (Execution.consistent_of_reachable hempty ((system d).steps_of_guarded hx)) heff ha hparked hb
      hplan

/-! ## Runs of the sample -/

namespace Sample

/-- The UTT is planned, and its first attempt is started. -/
def started : List (Action Call) :=
  perform 0 (.buildPlan "UTT-1" [route "A" 100, route "B" 200] (.aware 0)) 4 ++
    perform 1 (.startNext "UTT-1" (.aware 0)) 6

/-- The report that parks the attempt. -/
def parking : Call := .recordFailure "RTT-d106" "TIMEOUT" .reconciliationRequired 0 (.aware 0)

/-- The report of a definite failure. -/
def refusing : Call := .recordFailure "RTT-d106" "REFUSED" .retryable 0 (.aware 0)

/-- Both reports read the attempt; the first one parks it, then the second one reads the plan. -/
def racing : List (Action Call) :=
  started ++ [.start parking, .start refusing, .step 2, .step 3, .step 2, .step 2, .step 3]

/-- The first report parks the attempt before the second one starts. -/
def parked : List (Action Call) := started ++ perform 2 parking 3 ++ [.start refusing]

/-- The state of the attempt. -/
def stateIn (x : Config Op.Resp Call Exn Reply World) : Option AttemptState :=
  (x.state.executions.attempts.get? "RTT-d106").map RttAttemptRecord.state

/-- The next action of the second report. -/
def next (allowed : Call → Op → World → Bool) (x : Config Op.Resp Call Exn Reply World) :
    Config Op.Resp Call Exn Reply World :=
  (system deployment).act (answer allowed) x (.step 3)

/-- The second report, which is no resolution, can take a step. -/
def ready (allowed : Call → Op → World → Bool) (x : Config Op.Resp Call Exn Reply World) : Bool :=
  System.canStep (answer allowed) x 3 && (x.threads[3]?).all fun t => !t.call.isResolution

theorem reports_outcome :
    (stateIn (run (fun _ _ _ => true) racing) = some .reconciliationRequired ∧
      stateIn (next (fun _ _ _ => true) (run (fun _ _ _ => true) racing)) = some .failed ∧
      ready (fun _ _ _ => true) (run (fun _ _ _ => true) racing) = true) ∧
    stateIn (run freshReport parked) = some .reconciliationRequired ∧
      ready freshReport (run freshReport parked) = true := by
  decide +kernel

theorem racing_outcome :
    stateIn (run (fun _ _ _ => true) racing) = some .reconciliationRequired ∧
      stateIn (next (fun _ _ _ => true) (run (fun _ _ _ => true) racing)) = some .failed ∧
      ready (fun _ _ _ => true) (run (fun _ _ _ => true) racing) = true :=
  reports_outcome.1

theorem parked_outcome :
    stateIn (run freshReport parked) = some .reconciliationRequired ∧
      ready freshReport (run freshReport parked) = true :=
  reports_outcome.2

theorem exists_performs_next {allowed : Call → Op → World → Bool}
    {x : Config Op.Resp Call Exn Reply World} (h : ready allowed x = true) :
    ∃ c o, c.isResolution = false ∧
      ((system deployment).guarded fun c o w => allowed c o w = true).Performs 3 c o x
        (next allowed x) := by
  rw [ready, Bool.and_eq_true] at h
  obtain ⟨t, o, ht, hp⟩ := System.exists_performs (sem_of_answer allowed) h.1
  have hcall := h.2
  rw [ht, Option.all_some, Bool.not_eq_true'] at hcall
  exact ⟨t.call, o, hcall, hp⟩

/-- A parked attempt that fails in one step of another call than a resolution. -/
theorem not_keepsParked {x y : Config Op.Resp Call Exn Reply World} {c : Call} {o : Op}
    (hparked : stateIn x = some .reconciliationRequired) (hfailed : stateIn y = some .failed)
    (hc : c.isResolution = false) :
    ¬ KeepsParked c o x.state.executions y.state.executions := by
  intro h
  obtain ⟨a, ha, hstate⟩ := Option.map_eq_some_iff.mp hparked
  obtain ⟨b, hb, hbstate⟩ := Option.map_eq_some_iff.mp hfailed
  obtain ⟨a', ha', hcases⟩ := h.stays _ a ha hstate
  rw [ha', Option.some.injEq] at hb
  subst hb
  rcases hcases with hrec | ⟨hres, -⟩
  · rw [hbstate] at hrec
    cases hrec
  · rw [hc] at hres
    cases hres

end Sample

/-- A report that has read its attempt before it was parked commits over it. -/
theorem report_overwrites_parked_attempt :
    ¬ ∀ (d : Deployment) (w₀ : World) (x y : Config Op.Resp Call Exn Reply World) (i : ℕ) (c : Call)
      (o : Op), w₀.executions = .empty → (system d).Reachable w₀ x → (system d).Performs i c o x y →
        KeepsParked c o x.state.executions y.state.executions := by
  intro hclaim
  obtain ⟨hparked, hfailed, hready⟩ := Sample.racing_outcome
  have hreach := (system Sample.deployment).steps_of_guarded
    (Sample.reachable_run (fun _ _ _ => true) Sample.racing)
  generalize Sample.run (fun _ _ _ => true) Sample.racing = x at hparked hfailed hready hreach
  obtain ⟨c, o, hc, k, r, hi, hsem, ht⟩ := Sample.exists_performs_next hready
  exact Sample.not_keepsParked hparked hfailed hc
    (hclaim Sample.deployment Sample.world x _ 3 c o rfl hreach ⟨k, r, hi, hsem.2, ht⟩)

/-- In the sample, a second report that starts after the attempt has been parked leaves it parked. -/
theorem parked_until_resolution_sample :
    Sample.stateIn (Sample.run freshReport Sample.parked) = some .reconciliationRequired ∧
      ∃ c o, KeepsParked c o (Sample.run freshReport Sample.parked).state.executions
        (Sample.next freshReport (Sample.run freshReport Sample.parked)).state.executions := by
  obtain ⟨hparked, hready⟩ := Sample.parked_outcome
  have hreach := Sample.reachable_run freshReport Sample.parked
  generalize Sample.run freshReport Sample.parked = x at *
  obtain ⟨c, o, -, hp⟩ := Sample.exists_performs_next hready
  exact ⟨hparked, c, o, parked_until_resolution rfl hreach hp⟩

end RailOne
