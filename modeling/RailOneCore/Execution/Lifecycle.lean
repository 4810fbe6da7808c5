import RailOneCore.Execution.Ledger
import RailOneCore.Execution.Store

/-!
# The life of plans and attempts in the store

`ExecutionStore.Consistent` is the invariant of the execution store: keys and lineage fit together,
and every plan agrees with its attempts.  `ExecutionEffect` lists once and for all what a call may do
to the store, by the kind of the call: create a plan, start an attempt, close or park the attempt in
flight.  Every invariant is derived from that list.  `ExecutionStore.Evolves` is what any number of
effects leaves true: plans and attempts persist, a plan changes only with its version, and the
terminal statuses are absorbing.
-/

namespace RailOne

open Ordered

/-- The fields of a plan that no commit changes. -/
structure SamePlan (p q : ExecutionPlan) : Prop where
  planId : q.planId = p.planId
  uttId : q.uttId = p.uttId
  rankedRoutes : q.rankedRoutes = p.rankedRoutes
  maxAttempts : q.maxAttempts = p.maxAttempts
  routingBudgetMinor : q.routingBudgetMinor = p.routingBudgetMinor

namespace SamePlan

theorem refl (p : ExecutionPlan) : SamePlan p p := ⟨rfl, rfl, rfl, rfl, rfl⟩

theorem trans {p q r : ExecutionPlan} (h : SamePlan p q) (h' : SamePlan q r) : SamePlan p r :=
  ⟨h'.planId.trans h.planId, h'.uttId.trans h.uttId, h'.rankedRoutes.trans h.rankedRoutes,
    h'.maxAttempts.trans h.maxAttempts, h'.routingBudgetMinor.trans h.routingBudgetMinor⟩

end SamePlan

namespace ExecutionStore

/-- The attempts of a plan, in the order of their start. -/
def attemptsOf (st : ExecutionStore) (planId : String) : List RttAttemptRecord :=
  st.attempts.values.filter fun a => a.planId == planId

theorem mem_attemptsOf {st : ExecutionStore} {planId : String} {a : RttAttemptRecord} :
    a ∈ st.attemptsOf planId ↔ (∃ r, st.attempts.get? r = some a) ∧ a.planId = planId := by
  rw [attemptsOf, List.mem_filter, Dict.mem_values, beq_iff_eq]

/-- The invariant of the execution store. -/
structure Consistent (st : ExecutionStore) : Prop where
  planKey : ∀ {id p}, st.plans.get? id = some p → p.planId = id
  attemptKey : ∀ {r a}, st.attempts.get? r = some a → a.rttId = r ∧ strip r = r
  planOfUtt : ∀ {u id}, st.planByUtt.get? u = some id ↔
    ∃ p, st.plans.get? id = some p ∧ p.uttId = u
  planOfAttempt : ∀ {r a}, st.attempts.get? r = some a → ∃ p, st.plans.get? a.planId = some p
  agrees : ∀ {id p}, st.plans.get? id = some p → p.Agrees (st.attemptsOf id)

theorem Consistent.empty : Consistent ExecutionStore.empty where
  planKey := by simp [ExecutionStore.empty]
  attemptKey := by simp [ExecutionStore.empty]
  planOfUtt := by simp [ExecutionStore.empty]
  planOfAttempt := by simp [ExecutionStore.empty]
  agrees := by simp [ExecutionStore.empty]

/-- The plan of an attempt, with the attempt among those of the plan. -/
theorem Consistent.exists_plan {st : ExecutionStore} (h : st.Consistent) {r : String}
    {a : RttAttemptRecord} (ha : st.attempts.get? r = some a) :
    ∃ p, st.plans.get? a.planId = some p ∧ p.Agrees (st.attemptsOf a.planId) ∧
      a ∈ st.attemptsOf a.planId := by
  obtain ⟨p, hp⟩ := h.planOfAttempt ha
  exact ⟨p, hp, h.agrees hp, mem_attemptsOf.mpr ⟨⟨r, ha⟩, rfl⟩⟩

/-! ## Storing a plan with one of its attempts -/

section Put

variable {st : ExecutionStore} {p : ExecutionPlan} {a w : RttAttemptRecord}

@[simp] theorem plans_put : (st.put p a).plans = st.plans.set p.planId p := rfl

@[simp] theorem attempts_put : (st.put p a).attempts = st.attempts.set a.rttId a := rfl

@[simp] theorem planByUtt_put : (st.put p a).planByUtt = st.planByUtt := rfl

/-- A new attempt joins the attempts of its plan. -/
theorem attemptsOf_put_of_none (h : st.attempts.get? a.rttId = none) (id : String) :
    (st.put p a).attemptsOf id =
      if a.planId = id then st.attemptsOf id ++ [a] else st.attemptsOf id := by
  rw [attemptsOf, attempts_put, Dict.values_set_of_none h, List.filter_append]
  by_cases hid : a.planId = id
  · simp [hid, attemptsOf]
  · simp [hid, attemptsOf]

/-- An attempt is replaced in place. -/
theorem attemptsOf_put_of_some (h : st.attempts.get? a.rttId = some w)
    (hplan : w.planId = a.planId) :
    (∃ l₁ l₂, st.attemptsOf a.planId = l₁ ++ w :: l₂ ∧
        (st.put p a).attemptsOf a.planId = l₁ ++ a :: l₂) ∧
      ∀ id, id ≠ a.planId → (st.put p a).attemptsOf id = st.attemptsOf id := by
  obtain ⟨l₁, l₂, hold, hnew⟩ := Dict.values_set_of_some h a
  constructor
  · refine ⟨l₁.filter fun b => b.planId == a.planId, l₂.filter fun b => b.planId == a.planId,
      ?_, ?_⟩
    · rw [attemptsOf, hold]
      simp [hplan]
    · rw [attemptsOf, attempts_put, hnew]
      simp
  · intro id hid
    rw [attemptsOf, attempts_put, hnew, attemptsOf, hold]
    simp [List.filter_append, hplan, Ne.symm hid]

/-- Storing an updated plan with one of its attempts keeps the invariant, as long as the updated plan
agrees with its attempts. -/
theorem Consistent.put {p' : ExecutionPlan} (hs : st.Consistent)
    (hp : st.plans.get? p.planId = some p) (hsame : SamePlan p p')
    (hstrip : strip a.rttId = a.rttId) (hplan : a.planId = p.planId)
    (hagrees : p'.Agrees ((st.put p' a).attemptsOf p.planId))
    (hothers : ∀ id, id ≠ p.planId → (st.put p' a).attemptsOf id = st.attemptsOf id) :
    (st.put p' a).Consistent := by
  have hid : p'.planId = p.planId := hsame.planId
  refine ⟨?_, ?_, ?_, ?_, ?_⟩
  · intro id q hq
    rw [plans_put, Dict.get?_set] at hq
    split_ifs at hq with heq
    · cases hq
      exact heq.symm
    · exact hs.planKey hq
  · intro r b hb
    rw [attempts_put, Dict.get?_set] at hb
    split_ifs at hb with heq
    · cases hb
      exact ⟨heq.symm, heq ▸ hstrip⟩
    · exact hs.attemptKey hb
  · intro u id
    rw [planByUtt_put, plans_put, hs.planOfUtt]
    by_cases heq : id = p'.planId
    · subst heq
      rw [hid, hp]
      simp [← hid, hsame.uttId]
    · simp [heq]
  · intro r b hb
    rw [attempts_put, Dict.get?_set] at hb
    rw [plans_put]
    split_ifs at hb with heq
    · cases hb
      exact ⟨p', by simp [hplan, hid]⟩
    · obtain ⟨q, hq⟩ := hs.planOfAttempt hb
      rw [Dict.get?_set]
      split_ifs
      · exact ⟨p', rfl⟩
      · exact ⟨q, hq⟩
  · intro id q hq
    rw [plans_put, Dict.get?_set] at hq
    split_ifs at hq with heq
    · cases hq
      rw [heq, hid]
      exact hagrees
    · rw [hothers id fun h => heq (h.trans hid.symm)]
      exact hs.agrees hq

end Put

/-! ## What persists -/

/-- What remains true of a store while calls work on it: plans and attempts persist, a plan and its
attempts change only together with the version of the plan, and a plan in a terminal status never
changes again. -/
structure Evolves (s s' : ExecutionStore) : Prop where
  plan : ∀ {id p}, s.plans.get? id = some p → ∃ p', s'.plans.get? id = some p' ∧ SamePlan p p' ∧
    p.version ≤ p'.version ∧
    (p'.version = p.version → p' = p ∧ s'.attemptsOf id = s.attemptsOf id) ∧
    (p.status.isTerminal = true → p' = p)
  attempt : ∀ {r a}, s.attempts.get? r = some a →
    ∃ a', s'.attempts.get? r = some a' ∧ SameAttempt a a'
  utt : ∀ {u id}, s.planByUtt.get? u = some id → s'.planByUtt.get? u = some id

namespace Evolves

theorem refl (s : ExecutionStore) : Evolves s s where
  plan hp := ⟨_, hp, .refl _, le_rfl, fun _ => ⟨rfl, rfl⟩, fun _ => rfl⟩
  attempt ha := ⟨_, ha, .refl _⟩
  utt hu := hu

theorem trans {s₁ s₂ s₃ : ExecutionStore} (h : Evolves s₁ s₂) (h' : Evolves s₂ s₃) :
    Evolves s₁ s₃ where
  plan := by
    intro id p hp
    obtain ⟨q, hq, hpq, hle, hver, hterm⟩ := h.plan hp
    obtain ⟨r, hr, hqr, hle', hver', hterm'⟩ := h'.plan hq
    refine ⟨r, hr, hpq.trans hqr, hle.trans hle', ?_, ?_⟩
    · intro heq
      obtain ⟨rfl, has'⟩ := hver' (by omega)
      obtain ⟨rfl, has⟩ := hver heq
      exact ⟨rfl, has'.trans has⟩
    · intro ht
      obtain rfl := hterm ht
      exact hterm' ht
  attempt := by
    intro r a ha
    obtain ⟨b, hb, hab⟩ := h.attempt ha
    obtain ⟨c, hc, hbc⟩ := h'.attempt hb
    exact ⟨c, hc, hab.trans hbc⟩
  utt hu := h'.utt (h.utt hu)

/-- A committed update of one plan and one of its attempts. -/
theorem put {st : ExecutionStore} {p p' : ExecutionPlan} {a : RttAttemptRecord}
    (hp : st.plans.get? p.planId = some p) (hsame : SamePlan p p')
    (hversion : p'.version = p.version + 1) (hlive : p.status.isTerminal = false)
    (hattempt : ∀ w, st.attempts.get? a.rttId = some w → SameAttempt w a)
    (hothers : ∀ id, id ≠ p.planId → (st.put p' a).attemptsOf id = st.attemptsOf id) :
    Evolves st (st.put p' a) where
  plan := by
    intro id q hq
    by_cases heq : id = p.planId
    · subst heq
      rw [hp] at hq
      cases hq
      refine ⟨p', by simp [hsame.planId], hsame, by omega, fun h => ?_, fun h => ?_⟩
      · omega
      · rw [hlive] at h
        cases h
    · refine ⟨q, ?_, .refl q, le_rfl, fun _ => ⟨rfl, hothers id heq⟩, fun _ => rfl⟩
      rw [plans_put, Dict.get?_set, if_neg fun h => heq (h.trans hsame.planId)]
      exact hq
  attempt := by
    intro r b hb
    rw [attempts_put, Dict.get?_set]
    split_ifs with heq
    · subst heq
      exact ⟨a, rfl, hattempt b hb⟩
    · exact ⟨b, hb, .refl b⟩
  utt hu := hu

end Evolves

end ExecutionStore

/-! ## What a call may do to the store -/

/-- The kinds of calls, by what they may do to the execution store. -/
inductive ExecutionCause
  | plan
  | start
  | recordFailure (rttId : String) (disposition : FailureDisposition)
  | recordSuccess
  | resolve
  | other
  deriving DecidableEq, Repr

namespace ExecutionCause

/-- The call reports an outcome of an attempt that is in its created state. -/
def isRecord : ExecutionCause → Bool
  | .recordFailure .. | .recordSuccess => true
  | _ => false

/-- The statuses that a commit of such a call may give to the plan. -/
def mayReach : ExecutionCause → PlanStatus → Bool
  | .recordFailure _ .reconciliationRequired, .reconciliationRequired => true
  | .recordFailure _ .terminal, .failed => true
  | .recordFailure _ .retryable, .active => true
  | .recordFailure _ .retryable, .exhausted => true
  | .recordSuccess, .finalized => true
  | .resolve, .active => true
  | .resolve, .exhausted => true
  | .resolve, .failed => true
  | .resolve, .finalized => true
  | _, _ => false

end ExecutionCause

/-- What is known of the commits in the runs under consideration. -/
structure ExecutionRules where
  /-- A call that records an outcome finds the attempt still in its created state when it commits. -/
  strict : Prop
  /-- What is known of a plan when it is created. -/
  plan : ExecutionPlan → Prop
  /-- What is known of an attempt when it is started, given its plan before the start. -/
  attempt : ExecutionPlan → RttAttemptRecord → Prop

/-- Nothing but the life cycle itself. -/
def ExecutionRules.bare : ExecutionRules := ⟨False, fun _ => True, fun _ _ => True⟩

/-- What a call of a given kind may do to the execution store in one step. -/
inductive ExecutionEffect (rules : ExecutionRules) (cause : ExecutionCause) (s : ExecutionStore) :
    ExecutionStore → Prop
  | unchanged : ExecutionEffect rules cause s s
  | planned (p : ExecutionPlan) (hcause : cause = .plan)
      (hutt : s.planByUtt.get? p.uttId = none) (hid : s.plans.get? p.planId = none)
      (hnew : p.attemptsUsed = 0 ∧ p.currentRttId = none ∧ p.status = .active)
      (hknown : rules.plan p) :
      ExecutionEffect rules cause s
        { s with
          plans := s.plans.set p.planId p
          planByUtt := s.planByUtt.set p.uttId p.planId }
  | started (p p' : ExecutionPlan) (a : RttAttemptRecord) (hcause : cause = .start)
      (hp : s.plans.get? p.planId = some p) (hsame : SamePlan p p')
      (hversion : p'.version = p.version + 1)
      (hready : p.status = .active ∧ p.currentRttId = none ∧ p.attemptsUsed < p.maxAttempts)
      (hplan' : p'.status = .active ∧ p'.currentRttId = some a.rttId ∧
        p'.attemptsUsed = p.attemptsUsed + 1)
      (hfresh : s.attempts.get? a.rttId = none) (hstrip : strip a.rttId = a.rttId)
      (hlineage : a.planId = p.planId ∧ a.uttId = p.uttId)
      (hnew : a.attemptNumber = p.attemptsUsed + 1 ∧ a.state = .created)
      (hknown : rules.attempt p a) :
      ExecutionEffect rules cause s (s.put p' a)
  | closed (p p' : ExecutionPlan) (a a' : RttAttemptRecord)
      (hcause : cause.mayReach p'.status = true) (hlive : p.status.isTerminal = false)
      (hp : s.plans.get? p.planId = some p) (hsame : SamePlan p p')
      (hversion : p'.version = p.version + 1) (hused : p'.attemptsUsed = p.attemptsUsed)
      (ha : s.attempts.get? a.rttId = some a) (hplan : a.planId = p.planId)
      (hcurrent : p.currentRttId = some a.rttId) (hattempt : SameAttempt a a')
      (hcloses : Closes p' a')
      (hname : ∀ c, p'.currentRttId = some c → ∃ disposition, cause = .recordFailure c disposition)
      (hreported : ∀ c disposition, cause = .recordFailure c disposition → strip c = a.rttId)
      (hcreated : rules.strict → cause.isRecord = true → a.state = .created) :
      ExecutionEffect rules cause s (s.put p' a')

namespace ExecutionEffect

variable {rules : ExecutionRules} {cause : ExecutionCause} {s s' : ExecutionStore}

/-- The invariant survives every effect. -/
theorem consistent (h : ExecutionEffect rules cause s s') (hs : s.Consistent) :
    s'.Consistent := by
  cases h with
  | unchanged => exact hs
  | planned p hcause hutt hid hnew hknown =>
    refine ⟨?_, hs.attemptKey, ?_, ?_, ?_⟩
    · intro id q hq
      rw [Dict.get?_set] at hq
      split_ifs at hq with heq
      · cases hq
        exact heq.symm
      · exact hs.planKey hq
    · intro u id
      simp only [Dict.get?_set]
      by_cases hu : u = p.uttId
      · subst hu
        simp only [if_true, Option.some.injEq]
        constructor
        · rintro rfl
          exact ⟨p, by simp, rfl⟩
        · rintro ⟨q, hq, hqu⟩
          split_ifs at hq with heq
          · exact heq.symm
          · have := hs.planOfUtt.mpr ⟨q, hq, hqu⟩
            rw [hutt] at this
            cases this
      · rw [if_neg hu, hs.planOfUtt]
        refine exists_congr fun q => and_congr_left fun hqu => ?_
        by_cases heq : id = p.planId
        · subst heq
          simp only [hid, reduceCtorEq, if_true, Option.some.injEq, false_iff]
          rintro rfl
          exact hu hqu.symm
        · rw [if_neg heq]
    · intro r a ha
      obtain ⟨q, hq⟩ := hs.planOfAttempt ha
      refine ⟨q, ?_⟩
      rw [Dict.get?_set, if_neg ?_]
      · exact hq
      · intro heq
        rw [heq, hid] at hq
        cases hq
    · intro id q hq
      rw [Dict.get?_set] at hq
      split_ifs at hq with heq
      · cases hq
        -- no attempt belongs to a plan that was not there
        have hnone : ExecutionStore.attemptsOf s id = [] := by
          rw [List.eq_nil_iff_forall_not_mem]
          intro a ha
          obtain ⟨⟨r, hr⟩, hpl⟩ := ExecutionStore.mem_attemptsOf.mp ha
          obtain ⟨q, hq⟩ := hs.planOfAttempt hr
          rw [hpl, heq, hid] at hq
          cases hq
        change ExecutionPlan.Agrees p (ExecutionStore.attemptsOf s id)
        rw [hnone]
        exact .of_new hnew.1 hnew.2.1 hnew.2.2
      · exact hs.agrees hq
  | started p p' a hcause hp hsame hversion hready hplan' hfresh hstrip hlineage hnew
      hknown =>
    refine hs.put hp hsame hstrip hlineage.1 ?_ ?_
    · rw [ExecutionStore.attemptsOf_put_of_none hfresh, if_pos hlineage.1]
      refine (hs.agrees hp).start hready.1 hready.2.1 hready.2.2 ?_ hstrip hnew.1 hlineage.2
        hnew.2 hplan'.2.2 hsame.maxAttempts hsame.uttId hplan'.2.1 hplan'.1
      intro b hb hbeq
      obtain ⟨⟨r, hr⟩, -⟩ := ExecutionStore.mem_attemptsOf.mp hb
      rw [← (hs.attemptKey hr).1, hbeq, hfresh] at hr
      cases hr
    · intro id hne
      rw [ExecutionStore.attemptsOf_put_of_none hfresh,
        if_neg fun h => hne (h.symm.trans hlineage.1)]
  | closed p p' a a' hcause hlive hp hsame hversion hused ha hplan hcurrent hattempt hcloses
      hname hreported hcreated =>
    have hplan' : a'.planId = p.planId := hattempt.planId.trans hplan
    obtain ⟨⟨l₁, l₂, hold, hnew⟩, hothers⟩ := ExecutionStore.attemptsOf_put_of_some (p := p')
      (hattempt.rttId ▸ ha) hattempt.planId.symm
    have hstrip : strip a.rttId = a.rttId := (hs.attemptKey ha).2
    refine hs.put hp hsame (by rw [hattempt.rttId]; exact hstrip) hplan' ?_ ?_
    · have hagrees := hs.agrees hp
      rw [← hplan', hold] at hagrees
      rw [← hplan', hnew]
      exact hagrees.close hcurrent hstrip hattempt hused hsame.maxAttempts hsame.uttId hcloses
    · intro id hne
      exact hothers id fun h => hne (h.trans hplan')

/-- What holds of new plans, and depends only on what no commit changes, holds of all plans. -/
theorem forall_plan {F : ExecutionPlan → Prop} (h : ExecutionEffect rules cause s s')
    (hF : ∀ p p', SamePlan p p' → F p → F p') (hrules : ∀ p, rules.plan p → F p)
    (hs : ∀ id p, s.plans.get? id = some p → F p) :
    ∀ id p, s'.plans.get? id = some p → F p := by
  have hput : ∀ {p p' : ExecutionPlan} {a : RttAttemptRecord}, s.plans.get? p.planId = some p →
      SamePlan p p' → ∀ id q, (s.put p' a).plans.get? id = some q → F q := by
    intro p p' a hp hsame id q hq
    rw [ExecutionStore.plans_put, Dict.get?_set] at hq
    split at hq
    · cases hq
      exact hF p p' hsame (hs _ p hp)
    · exact hs id q hq
  cases h with
  | unchanged => exact hs
  | planned p hcause hutt hid hnew hknown =>
    intro id q hq
    rw [Dict.get?_set] at hq
    split at hq
    · cases hq
      exact hrules p hknown
    · exact hs id q hq
  | started p p' a hcause hp hsame hversion hready hplan' hfresh hstrip hlineage hnew hknown =>
    exact hput hp hsame
  | closed p p' a a' hcause hlive hp hsame hversion hused ha hplan hcurrent hattempt hcloses
      hname hreported hcreated =>
    exact hput hp hsame

/-- Effects only move the store forward. -/
theorem evolves (h : ExecutionEffect rules cause s s') : s.Evolves s' := by
  cases h with
  | unchanged => exact .refl s
  | planned p hcause hutt hid hnew hknown =>
    refine ⟨?_, fun ha => ⟨_, ha, .refl _⟩, ?_⟩
    · intro id q hq
      refine ⟨q, ?_, .refl q, le_rfl, fun _ => ⟨rfl, rfl⟩, fun _ => rfl⟩
      rw [Dict.get?_set, if_neg ?_]
      · exact hq
      · rintro rfl
        rw [hid] at hq
        cases hq
    · intro u id hu
      rw [Dict.get?_set, if_neg ?_]
      · exact hu
      · rintro rfl
        rw [hutt] at hu
        cases hu
  | started p p' a hcause hp hsame hversion hready hplan' hfresh hstrip hlineage hnew
      hknown =>
    refine .put hp hsame hversion (by rw [hready.1]; rfl) ?_ ?_
    · intro w hw
      rw [hfresh] at hw
      cases hw
    · intro id hne
      rw [ExecutionStore.attemptsOf_put_of_none hfresh,
        if_neg fun h => hne (h.symm.trans hlineage.1)]
  | closed p p' a a' hcause hlive hp hsame hversion hused ha hplan hcurrent hattempt hcloses
      hname hreported hcreated =>
    refine .put hp hsame hversion hlive ?_ ?_
    · intro w hw
      rw [hattempt.rttId, ha] at hw
      cases hw
      exact hattempt
    · intro id hne
      exact (ExecutionStore.attemptsOf_put_of_some (hattempt.rttId ▸ ha)
        hattempt.planId.symm).2 id fun h => hne (h.trans (hattempt.planId.trans hplan))

end ExecutionEffect

end RailOne
