import RailOneCore.Execution.Models

/-!
# The execution store

`InMemoryExecutionStore` keeps the plans, the plan of each UTT and the RTT attempts.  Every write is
a compare-and-swap on the plan version: `commit_start` opens an attempt of a plan that has none in
flight, `commit_transition` closes or parks the attempt in flight.

The UTT check at the head of `create_plan` and `commit_start` is made before the store takes its
lock, hence it is an operation of its own and not part of the functions below.
-/

namespace RailOne

open Ordered

/-- `InMemoryExecutionStore`. -/
structure ExecutionStore where
  plans : Dict String ExecutionPlan
  planByUtt : Dict String String
  attempts : Dict String RttAttemptRecord

namespace ExecutionStore

/-- The store without plans. -/
def empty : ExecutionStore := ⟨.empty, .empty, .empty⟩

/-- `self._plans[plan_id]`. -/
def plan (st : ExecutionStore) (planId : String) : Except Exn ExecutionPlan :=
  match st.plans.get? planId with
  | some plan => .ok plan
  | none => .error ⟨.keyError, planId⟩

/-- `create_plan`, after its UTT check. -/
def createPlan (st : ExecutionStore) (plan : ExecutionPlan) :
    Except Exn (ExecutionPlan × ExecutionStore) :=
  match st.planByUtt.get? plan.uttId with
  | some existingId =>
    if existingId ≠ plan.planId then
      .error ⟨.executionPlanConflict, "UTT already has a different execution plan"⟩
    else do return (← st.plan existingId, st)
  | none =>
    if (st.plans.get? plan.planId).isSome then
      .error ⟨.runtimeError, "execution plan identifier collision"⟩
    else .ok (plan,
      { st with
        plans := st.plans.set plan.planId plan
        planByUtt := st.planByUtt.set plan.uttId plan.planId })

/-- `require_plan_for_utt`. -/
def requirePlanForUtt (st : ExecutionStore) (uttId : String) : Except Exn ExecutionPlan :=
  match st.planByUtt.get? uttId with
  | none => .error ⟨.executionPlanNotFound, "execution plan not found for " ++ uttId⟩
  | some planId => st.plan planId

/-- `require_plan`. -/
def requirePlan (st : ExecutionStore) (planId : String) : Except Exn ExecutionPlan :=
  match st.plans.get? planId with
  | none => .error ⟨.executionPlanNotFound, "execution plan not found: " ++ planId⟩
  | some plan => .ok plan

/-- `require_attempt`. -/
def requireAttempt (st : ExecutionStore) (rttId : String) : Except Exn RttAttemptRecord :=
  match st.attempts.get? rttId with
  | none => .error ⟨.rttNotFound, "RTT attempt not found: " ++ rttId⟩
  | some attempt => .ok attempt

/-- Store a plan and one of its attempts. -/
def put (st : ExecutionStore) (plan : ExecutionPlan) (attempt : RttAttemptRecord) :
    ExecutionStore :=
  { st with
    plans := st.plans.set plan.planId plan
    attempts := st.attempts.set attempt.rttId attempt }

/-- The message of a lost compare-and-swap. -/
def concurrentUpdate : Exn := ⟨.concurrentPlanUpdate, "execution plan changed concurrently"⟩

/-- `commit_start`, after its UTT check. -/
def commitStart (st : ExecutionStore) (previousVersion : ℕ) (plan : ExecutionPlan)
    (attempt : RttAttemptRecord) : Except Exn (Unit × ExecutionStore) :=
  match st.plans.get? plan.planId with
  | none => .error concurrentUpdate
  | some current =>
    if current.version ≠ previousVersion then .error concurrentUpdate
    else if current.currentRttId ≠ none then
      .error ⟨.runtimeError, "an RTT is already in flight"⟩
    else if (st.attempts.get? attempt.rttId).isSome then
      .error ⟨.runtimeError, "RTT identifier collision"⟩
    else if attempt.uttId ≠ plan.uttId ∨ attempt.planId ≠ plan.planId then
      .error ⟨.valueError, "RTT lineage does not match execution plan"⟩
    else .ok ((), st.put plan attempt)

/-- `commit_transition`. -/
def commitTransition (st : ExecutionStore) (previousVersion : ℕ) (plan : ExecutionPlan)
    (attempt : RttAttemptRecord) : Except Exn (Unit × ExecutionStore) :=
  match st.plans.get? plan.planId with
  | none => .error concurrentUpdate
  | some current =>
    if current.version ≠ previousVersion then .error concurrentUpdate
    else if (st.attempts.get? attempt.rttId).isNone then
      .error ⟨.rttNotFound, "RTT attempt not found: " ++ attempt.rttId⟩
    else if current.currentRttId ≠ some attempt.rttId then
      .error ⟨.runtimeError, "RTT is not the current in-flight attempt"⟩
    else .ok ((), st.put plan attempt)

/-! ## What the operations find and do -/

theorem requirePlan_eq_ok {st : ExecutionStore} {planId : String} {plan : ExecutionPlan} :
    st.requirePlan planId = .ok plan ↔ st.plans.get? planId = some plan := by
  unfold requirePlan
  split <;> simp_all

theorem requireAttempt_eq_ok {st : ExecutionStore} {rttId : String} {a : RttAttemptRecord} :
    st.requireAttempt rttId = .ok a ↔ st.attempts.get? rttId = some a := by
  unfold requireAttempt
  split <;> simp_all

theorem requirePlanForUtt_eq_ok {st : ExecutionStore} {uttId : String} {plan : ExecutionPlan} :
    st.requirePlanForUtt uttId = .ok plan ↔
      ∃ planId, st.planByUtt.get? uttId = some planId ∧ st.plans.get? planId = some plan := by
  unfold requirePlanForUtt
  cases st.planByUtt.get? uttId with
  | none => simp
  | some planId =>
    simp only [Option.some.injEq, exists_eq_left', ExecutionStore.plan]
    cases st.plans.get? planId <;> simp

/-- A created plan is the stored plan of its UTT, or a new plan of a UTT that had none. -/
theorem createPlan_eq_ok {st st' : ExecutionStore} {plan p : ExecutionPlan}
    (h : st.createPlan plan = .ok (p, st')) :
    (st' = st ∧ st.planByUtt.get? plan.uttId = some plan.planId) ∨
      (st.planByUtt.get? plan.uttId = none ∧ st.plans.get? plan.planId = none ∧
        st' = { st with
          plans := st.plans.set plan.planId plan
          planByUtt := st.planByUtt.set plan.uttId plan.planId }) := by
  unfold createPlan at h
  split at h
  · next existingId hid =>
    split_ifs at h with hne
    rw [not_not] at hne
    subst hne
    refine .inl ⟨?_, hid⟩
    cases hp : st.plan plan.planId with
    | error e => rw [hp] at h; cases h
    | ok q =>
      rw [hp] at h
      cases h
      rfl
  · next hnone =>
    split_ifs at h with hfresh
    cases h
    exact .inr ⟨hnone, by simpa using hfresh, rfl⟩

/-- A committed start found the plan at the expected version with nothing in flight. -/
theorem commitStart_eq_ok {st st' : ExecutionStore} {v : ℕ} {plan : ExecutionPlan}
    {a : RttAttemptRecord} {u : Unit} (h : st.commitStart v plan a = .ok (u, st')) :
    st' = st.put plan a ∧ a.uttId = plan.uttId ∧ a.planId = plan.planId ∧
      st.attempts.get? a.rttId = none ∧
      ∃ current, st.plans.get? plan.planId = some current ∧ current.version = v ∧
        current.currentRttId = none := by
  unfold commitStart at h
  split at h
  · cases h
  · next current hcur =>
    split_ifs at h with h₁ h₂ h₃ h₄
    cases h
    rw [not_or, not_not, not_not] at h₄
    exact ⟨rfl, h₄.1, h₄.2, by simpa using h₃, current, hcur, not_not.mp h₁, not_not.mp h₂⟩

/-- A committed transition found the plan at the expected version with this attempt in flight. -/
theorem commitTransition_eq_ok {st st' : ExecutionStore} {v : ℕ} {plan : ExecutionPlan}
    {a : RttAttemptRecord} {u : Unit} (h : st.commitTransition v plan a = .ok (u, st')) :
    st' = st.put plan a ∧
      (∃ current, st.plans.get? plan.planId = some current ∧ current.version = v ∧
        current.currentRttId = some a.rttId) ∧
      ∃ prior, st.attempts.get? a.rttId = some prior := by
  unfold commitTransition at h
  split at h
  · cases h
  · next current hcur =>
    split_ifs at h with h₁ h₂ h₃
    cases h
    refine ⟨rfl, ⟨current, hcur, not_not.mp h₁, not_not.mp h₃⟩, ?_⟩
    rw [Option.isNone_iff_eq_none] at h₂
    exact Option.ne_none_iff_exists'.mp h₂

end ExecutionStore

end RailOne
