import RailOneCore.Execution.Lifecycle
import RailOneCore.Execution.Service

/-!
# The services respect the life cycle

Every call of the planner and of the attempt service, whatever other calls do between its steps, has
only the effects that `ExecutionEffect` lists for its kind.  This is the refinement between the code
and the life cycle: the invariant and all facts about runs are derived from the effects.

The statements are parametric in a `guard` on operations, so that they also cover runs restricted to
operations that satisfy one.
-/

namespace RailOne

open Concurrent Ordered

namespace Execution

/-- What the calls agree on about the execution store. -/
def protocol : Protocol World where
  Inv w := w.executions.Consistent
  Rely w w' := w.executions.Evolves w'.executions
  avail _ := 0
  rely_refl w := .refl w.executions
  rely_trans _ _ _ h h' := h.trans h'

/-- What a call of the given kind guarantees. -/
def Effect (rules : ExecutionRules) (cause : ExecutionCause) (w w' : World) : Prop :=
  ExecutionEffect rules cause w.executions w'.executions

/-! ## How commits are issued -/

/-- What is known of a `commit_start` when it is issued, whether or not the store accepts it: it
advances the version by one, and if the plan is still the one that was read, it starts the next
attempt of that plan. -/
structure StartIssued (d : Deployment) (s : ExecutionStore) (v : ℕ) (p : ExecutionPlan)
    (a : RttAttemptRecord) : Prop where
  version : p.version = v + 1
  lineage : a.uttId = p.uttId ∧ a.planId = p.planId
  current : p.currentRttId = some a.rttId
  exact : ∀ q, s.plans.get? p.planId = some q → q.version = v → ∃ selected instant uttHash,
    RttAttemptService.selectRoute q = .ok selected ∧
      p = q.afterStart a.rttId selected.candidate.routeId instant ∧
      a = RttAttemptService.newAttempt a.rttId p.uttId q selected.candidate.routeId a.signedRtt
        instant ∧
      RttAttemptService.rttPayload d a.rttId p.uttId uttHash q selected instant =
        .ok a.signedRtt.payload

/-- What a report or a resolution makes of the plan and the attempt that it has read. -/
inductive Concludes (q : ExecutionPlan) (b : RttAttemptRecord) (rttId : String) :
    ExecutionPlan → RttAttemptRecord → Prop
  | failure (code : String) (disposition : FailureDisposition) (cost : Int) (instant : Instant)
      (hcost : 0 ≤ cost) :
      Concludes q b rttId (q.afterFailure rttId b.routeId code disposition cost instant)
        (b.afterFailure code disposition cost instant)
  | success (cost : Int) (instant : Instant) (hcost : 0 ≤ cost) :
      Concludes q b rttId (q.afterSuccess rttId b.routeId cost instant)
        (b.afterSuccess cost instant)

/-- What is known of a `commit_transition` when it is issued: it advances the version by one, gives a
stored attempt an outcome, and points to that attempt as the caller named it. -/
structure TransitionIssued (named : Option String) (s : ExecutionStore) (v : ℕ)
    (p : ExecutionPlan) (a : RttAttemptRecord) : Prop where
  version : p.version = v + 1
  lineage : a.planId = p.planId
  outcome : a.state ≠ .created
  attempt : ∃ b, s.attempts.get? a.rttId = some b ∧ SameAttempt b a
  pointers : ∃ r, named = some r ∧ p.previousRttId = some r ∧ strip r = a.rttId ∧
    ∀ c ∈ p.currentRttId, c = r
  exact : ∀ q, s.plans.get? p.planId = some q → q.version = v →
    ∃ b r, named = some r ∧ SameAttempt b a ∧ Concludes q b r p a

/-- What is known of an operation when a call that names an RTT issues it. -/
def Issued (d : Deployment) (named : Option String) : Op → World → Prop
  | .createPlan p, _ => ∃ signedUtt candidates instant,
    ExecutionPlanningService.draft d p.uttId signedUtt candidates instant = .ok p
  | .commitStart v p a, w => StartIssued d w.executions v p a
  | .commitTransition v p a, w => TransitionIssued named w.executions v p a
  | _, _ => True

theorem Concludes.samePlan {q p : ExecutionPlan} {b a : RttAttemptRecord} {r : String}
    (h : Concludes q b r p a) : SamePlan q p := by
  cases h <;> exact ⟨rfl, rfl, rfl, rfl, rfl⟩

theorem TransitionIssued.plan {named : Option String} {s : ExecutionStore} {v : ℕ}
    {p q : ExecutionPlan} {a : RttAttemptRecord} (h : TransitionIssued named s v p a)
    (hq : s.plans.get? p.planId = some q) (hv : q.version = v) : SamePlan q p := by
  obtain ⟨b, r, -, -, hconcludes⟩ := h.exact q hq hv
  exact hconcludes.samePlan

theorem StartIssued.plan {d : Deployment} {s : ExecutionStore} {v : ℕ} {p q : ExecutionPlan}
    {a : RttAttemptRecord} (h : StartIssued d s v p a) (hq : s.plans.get? p.planId = some q)
    (hv : q.version = v) :
    SamePlan q p ∧ p.previousRttId = q.previousRttId ∧ a.attemptNumber = q.attemptsUsed + 1 := by
  obtain ⟨selected, instant, uttHash, -, hp, ha, -⟩ := h.exact q hq hv
  refine ⟨?_, ?_, ?_⟩
  · rw [hp]
    exact ⟨rfl, rfl, rfl, rfl, rfl⟩
  · rw [hp]
    rfl
  · rw [ha]
    rfl

/-- A drafted plan has no attempt and no failure. -/
theorem new_of_draft {d : Deployment} {p : ExecutionPlan} {signedUtt : SignatureEnvelope}
    {candidates : List RouteCandidate} {instant : Instant}
    (h : ExecutionPlanningService.draft d p.uttId signedUtt candidates instant = .ok p) :
    p.failures = [] ∧ p.currentRttId = none ∧ p.previousRttId = none := by
  obtain ⟨request, ranked, planId, maxAttempts, -, -, -, hp⟩ :=
    ExecutionPlanningService.draft_eq_ok h
  rw [hp]
  exact ⟨rfl, rfl, rfl⟩

theorem issued_of_part {d : Deployment} {named : Option String} {o : Op} {w : World}
    (ho : o.part ≠ .executions) : Issued d named o w := by
  cases o
  case createPlan => exact absurd rfl ho
  case commitStart => exact absurd rfl ho
  case commitTransition => exact absurd rfl ho
  all_goals trivial

/-- A program respects the life cycle with effects of the given kind. -/
def Respects (d : Deployment) (guard : Op → World → Prop) (rules : ExecutionRules)
    (cause : ExecutionCause) (named : Option String) {α : Type} (p : Code α) (w : World) : Prop :=
  Safe protocol (guardedSem d.rt guard)
    (fun o w w' => Effect rules cause w w' ∧ Issued d named o w) (fun _ _ _ => True) p 0 w

section Rules

variable {d : Deployment} {guard : Op → World → Prop} {rules : ExecutionRules}
  {cause : ExecutionCause} {named : Option String} {α β : Type} {w : World}

/-- Operations that do not write the execution store disturb nothing. -/
theorem quiet {o : Op} {w w' : World} {r : o.Resp} (ho : o.part ≠ .executions)
    (hinv : protocol.Inv w) (h : guardedSem d.rt guard o w r w') :
    protocol.Inv w' ∧ protocol.Rely w w' ∧ (Effect rules cause w w' ∧ Issued d named o w) ∧
      protocol.avail w' = protocol.avail w := by
  have hissued : Issued d named o w := issued_of_part ho
  have heq := (World.frame_of_sem h.2).executions ho
  simp only [protocol, Effect, heq]
  exact ⟨hinv, .refl _, ⟨.unchanged, hissued⟩, trivial⟩

theorem Respects.of_ops {p : Code α} (hp : p.Ops fun o => o.part ≠ .executions) :
    Respects d guard rules cause named p w := by
  refine Safe.of_ops (fun o s r s' ho hi h => ?_) (fun _ _ => trivial) hp w
  have hq : protocol.Inv s' ∧ protocol.Rely s s' ∧ (Effect rules cause s s' ∧ Issued d named o s) ∧
      protocol.avail s' = protocol.avail s := quiet ho hi h
  exact ⟨hq.1, hq.2.2⟩

/-- A first program that does not write the execution store. -/
theorem Respects.skip {p : Code β} {f : β → Code α}
    (hp : p.Ops fun o => o.part ≠ .executions) (hinv : protocol.Inv w)
    (hf : ∀ a w', protocol.Rely w w' → protocol.Inv w' → Respects d guard rules cause named (f a) w') :
    Respects d guard rules cause named (p >>= f) w :=
  Safe.bind_of_ops (fun _ _ _ _ ho hi h => quiet ho hi h) hp hinv hf fun _ _ _ _ => trivial

theorem Respects.lift {x : Except Exn β} {f : β → Code α}
    (hf : ∀ a, x = .ok a → Respects d guard rules cause named (f a) w) :
    Respects d guard rules cause named (.ret x >>= f) w :=
  Safe.lift hf fun _ _ => safe_ret.mpr fun _ _ _ => trivial

/-- A first operation that only reads, with what it reads. -/
theorem Respects.read {o : Op} {x : World → o.Resp} {f : o.Ret → Code α}
    (ho : o.part ≠ .executions)
    (hsem : ∀ w r w', World.sem d.rt o w r w' ↔ Reads (x w) w r w')
    (hf : ∀ a w', protocol.Rely w w' → protocol.Inv w' → guard o w' → x w' = .ok a →
      Respects d guard rules cause named (f a) w') :
    Respects d guard rules cause named (call o >>= f) w := by
  refine Safe.read (fun s r s' h => ((hsem _ _ _).mp h.2).2) 
    (fun s _ => ⟨.unchanged, issued_of_part ho⟩) ?_ ?_
  · intro s₁ h₁ hi a h
    exact hf a s₁ h₁ hi h.1 ((hsem _ _ _).mp h.2).1.symm
  · exact fun _ _ _ _ _ => safe_ret.mpr fun _ _ _ => trivial

theorem Respects.requireAttempt {key : String} {f : RttAttemptRecord → Code α}
    (hf : ∀ a w', protocol.Rely w w' → protocol.Inv w' → guard (.requireAttempt key) w' →
      w'.executions.attempts.get? key = some a → Respects d guard rules cause named (f a) w') :
    Respects d guard rules cause named (Code.requireAttempt key >>= f) w := by
  refine Respects.read (o := .requireAttempt key) nofun (fun _ _ _ => sem_requireAttempt) ?_
  exact fun a w' hr hi hg ha => hf a w' hr hi hg (ExecutionStore.requireAttempt_eq_ok.mp ha)

theorem Respects.requirePlan {id : String} {f : ExecutionPlan → Code α}
    (hf : ∀ p w', protocol.Rely w w' → protocol.Inv w' → guard (.requirePlan id) w' →
      w'.executions.plans.get? id = some p → Respects d guard rules cause named (f p) w') :
    Respects d guard rules cause named (Code.requirePlan id >>= f) w := by
  refine Respects.read (o := .requirePlan id) nofun (fun _ _ _ => sem_requirePlan) ?_
  exact fun p w' hr hi hg hp => hf p w' hr hi hg (ExecutionStore.requirePlan_eq_ok.mp hp)

theorem Respects.requirePlanForUtt {uttId : String} {f : ExecutionPlan → Code α}
    (hf : ∀ p w' planId, protocol.Rely w w' → protocol.Inv w' →
      w'.executions.planByUtt.get? uttId = some planId →
      w'.executions.plans.get? planId = some p → Respects d guard rules cause named (f p) w') :
    Respects d guard rules cause named (Code.requirePlanForUtt uttId >>= f) w := by
  refine Respects.read (o := .requirePlanForUtt uttId) nofun (fun _ _ _ => sem_requirePlanForUtt) ?_
  intro p w' hr hi _ hp
  obtain ⟨planId, hid, hget⟩ := ExecutionStore.requirePlanForUtt_eq_ok.mp hp
  exact hf p w' planId hr hi hid hget

theorem Respects.requireUtt {key : String} {f : SignatureEnvelope → Code α}
    (hf : ∀ e w', protocol.Rely w w' → protocol.Inv w' → guard (.requireUtt key) w' →
      w'.contracts.utts.get? key = some e → Respects d guard rules cause named (f e) w') :
    Respects d guard rules cause named (Code.requireUtt key >>= f) w := by
  refine Respects.read (o := .requireUtt key) nofun (fun _ _ _ => sem_requireUtt) ?_
  exact fun e w' hr hi hg he => hf e w' hr hi hg (ContractStore.requireUtt_eq_ok.mp he)

/-- A signature that is made, with what is signed. -/
theorem Respects.sign {t : ArtifactType} {payload : Fields} {keyId : String} {at_ : Instant}
    {f : SignatureEnvelope → Code α}
    (hf : ∀ e w' w'', protocol.Rely w w' → protocol.Inv w'' →
      w''.executions = w'.executions → guard (.sign t payload keyId at_) w' →
      SignatureService.signArtifact d.rt w'.keys t payload keyId at_ = .ok e →
      Respects d guard rules cause named (f e) w'') :
    Respects d guard rules cause named (Code.sign t payload keyId at_ >>= f) w := by
  refine Safe.call (o := Op.sign t payload keyId at_) fun w₁ h₁ hi _ r w₂ hs => ?_
  have hq : protocol.Inv w₂ ∧ protocol.Rely w₁ w₂ ∧
      (Effect rules cause w₁ w₂ ∧ Issued d named (.sign t payload keyId at_) w₁) ∧
      protocol.avail w₂ = protocol.avail w₁ := quiet (o := Op.sign _ _ _ _) nofun hi hs
  have hexec : w₂.executions = w₁.executions := (World.frame_of_sem hs.2).executions nofun
  refine ⟨hq.1, hq.2.2.1, 0, rfl, ?_, fun _ _ => safe_ret.mpr fun _ _ _ => trivial⟩
  rintro e rfl
  exact hf e w₁ w₂ h₁ hq.1 hexec hs.1 (sem_sign_ok.mp hs.2).1

/-- A last operation that commits: it must be issued as it should be, and when it succeeds, its effect
must be one of those listed. -/
theorem Respects.commit {o : Op} {x : World → Except Exn (o.Ret × ExecutionStore)}
    {k : o.Resp → Code α} (hk : ∀ r, ∃ res, k r = .ret res)
    (hsem : ∀ w r w', World.sem d.rt o w r w' ↔
      Commits (x w) (fun st => { w with executions := st }) w r w')
    (hissued : ∀ w', protocol.Rely w w' → protocol.Inv w' → Issued d named o w')
    (hx : ∀ w', protocol.Rely w w' → protocol.Inv w' → ∀ a st, x w' = .ok (a, st) →
      ExecutionEffect rules cause w'.executions st) :
    Respects d guard rules cause named (.op o k) w := by
  refine safe_op.mpr fun s₁ h₁ hi _ r s₂ hs => ?_
  have hc := (hsem _ _ _).mp hs.2
  unfold Commits at hc
  have heff : Effect rules cause s₁ s₂ := by
    split at hc
    · next a st hst =>
      rw [hc.2]
      exact hx s₁ h₁ hi a st hst
    · rw [hc.2]
      exact .unchanged
  obtain ⟨res, hres⟩ := hk r
  refine ⟨heff.consistent hi, ⟨heff, hissued s₁ h₁ hi⟩, 0, rfl, ?_⟩
  rw [hres]
  exact safe_ret.mpr fun _ _ _ => trivial

end Rules

/-! ## Where plans and attempts come from -/

section Origins

variable (d : Deployment) (guard : Op → World → Prop)

/-- How `build_plan` came to a plan: what it read in worlds that satisfy the guard. -/
structure PlanOrigin (plan : ExecutionPlan) : Prop where
  draft : ∃ w signedUtt candidates instant, guard (.requireUtt (strip plan.uttId)) w ∧
    w.contracts.utts.get? (strip plan.uttId) = some signedUtt ∧
    ExecutionPlanningService.draft d plan.uttId signedUtt candidates instant = .ok plan
  stored : ∃ w e, guard (.requireUtt plan.uttId) w ∧ w.contracts.utts.get? plan.uttId = some e

/-- How `start_next` came to an attempt of the plan. -/
structure AttemptOrigin (plan : ExecutionPlan) (a : RttAttemptRecord) : Prop where
  payload : ∃ w signedUtt uttHash selected instant, guard (.requireUtt (strip plan.uttId)) w ∧
    w.contracts.utts.get? (strip plan.uttId) = some signedUtt ∧
    signedUtt.header.get "payload_sha256" = some uttHash ∧ selected ∈ plan.rankedRoutes ∧
    RttAttemptService.rttPayload d a.rttId a.uttId uttHash plan selected instant =
      .ok a.signedRtt.payload
  signed : ∃ w payload instant, guard (.sign .rtt payload d.rttSigningKeyId instant) w ∧
    SignatureService.signArtifact d.rt w.keys .rtt payload d.rttSigningKeyId instant =
      .ok a.signedRtt
  stored : ∃ w e, guard (.requireUtt plan.uttId) w ∧ w.contracts.utts.get? plan.uttId = some e

end Origins

/-! ## The calls -/

section Calls

variable {d : Deployment} {guard : Op → World → Prop} {rules : ExecutionRules} {w : World}

/-- `build_plan` may only create a plan. -/
theorem respects_buildPlan (hplan : ∀ plan, PlanOrigin d guard plan → rules.plan plan)
    (uttId : String) (candidates : List RouteCandidate) (at_ : Datetime) :
    Respects d guard rules .plan none
      (ExecutionPlanningService.buildPlan d uttId candidates at_) w := by
  unfold ExecutionPlanningService.buildPlan
  refine Respects.lift fun instant _ => Respects.lift fun key hkey => ?_
  obtain ⟨rfl, -⟩ := requireText_eq_ok.mp hkey
  refine Respects.requireUtt fun signedUtt w₁ _ h₁ hg₁ hutt => ?_
  refine Respects.skip (ops_requireValid nofun) h₁ fun _ w₂ _ h₂ => ?_
  refine Respects.lift fun plan hdraft => ?_
  unfold Code.createPlan
  refine Respects.requireUtt fun e w₃ _ h₃ hg₃ he => ?_
  obtain ⟨request, ranked, planId, maxAttempts, -, -, -, rfl⟩ :=
    ExecutionPlanningService.draft_eq_ok hdraft
  refine Respects.commit (fun r => ⟨r, rfl⟩) (fun _ _ _ => sem_createPlan)
    (fun _ _ _ => ⟨signedUtt, candidates, instant, hdraft⟩) fun w' _ hi p st hst => ?_
  rcases ExecutionStore.createPlan_eq_ok hst with ⟨rfl, -⟩ | ⟨hfresh, hid, rfl⟩
  · exact .unchanged
  · exact .planned _ rfl hfresh hid ⟨rfl, rfl, rfl⟩
      (hplan _ ⟨⟨w₁, signedUtt, candidates, instant, hg₁, hutt, hdraft⟩, w₃, e, hg₃, he⟩)

section Failure

variable {p : ExecutionPlan} {a : RttAttemptRecord} {rttId code : String}
  {disposition : FailureDisposition} {cost : Int} {instant : Instant}

/-- A recorded failure closes the attempt, or parks it when the outcome is unknown. -/
theorem closes_afterFailure (hid : strip rttId = a.rttId) :
    Closes (p.afterFailure rttId a.routeId code disposition cost instant)
      (a.afterFailure code disposition cost instant) := by
  cases disposition with
  | reconciliationRequired => exact .parked rttId rfl hid rfl rfl
  | terminal => exact .failed rfl (by simp [ExecutionPlan.afterFailure,
      ExecutionPlan.statusAfterFailure]) (by simp [ExecutionPlan.afterFailure,
      ExecutionPlan.statusAfterFailure]) rfl
  | retryable =>
    refine .failed rfl ?_ ?_ rfl <;>
    · simp only [ExecutionPlan.afterFailure, ExecutionPlan.statusAfterFailure]
      split <;> simp

theorem mayReach_afterFailure :
    (ExecutionCause.recordFailure rttId disposition).mayReach
      (p.afterFailure rttId a.routeId code disposition cost instant).status = true := by
  cases disposition with
  | reconciliationRequired | terminal => rfl
  | retryable =>
    simp only [ExecutionPlan.afterFailure, ExecutionPlan.statusAfterFailure]
    split <;> rfl

/-- A plan that awaits reconciliation points to its attempt as the caller named it. -/
theorem name_afterFailure {c : String}
    (h : (p.afterFailure rttId a.routeId code disposition cost instant).currentRttId = some c) :
    ∃ disposition', ExecutionCause.recordFailure rttId disposition = .recordFailure c disposition' := by
  simp only [ExecutionPlan.afterFailure] at h
  split_ifs at h
  cases h
  exact ⟨_, rfl⟩

/-- A definite failure leaves nothing in flight. -/
theorem not_parked_afterFailure {cause : ExecutionCause}
    (hdisp : disposition ≠ .reconciliationRequired) (c : String)
    (h : (p.afterFailure rttId a.routeId code disposition cost instant).currentRttId = some c) :
    ∃ disposition', cause = .recordFailure c disposition' := by
  simp [ExecutionPlan.afterFailure, hdisp] at h

theorem mayReach_resolve (hdisp : disposition ≠ .reconciliationRequired) :
    ExecutionCause.resolve.mayReach
      (p.afterFailure rttId a.routeId code disposition cost instant).status = true := by
  cases disposition with
  | reconciliationRequired => exact absurd rfl hdisp
  | terminal => rfl
  | retryable =>
    simp only [ExecutionPlan.afterFailure, ExecutionPlan.statusAfterFailure]
    split <;> rfl

end Failure

/-- A cost that passed its check is not negative. -/
theorem nonneg_of_requireMinorUnits {name : String} {value n : Int}
    (h : requireMinorUnits name value true = .ok n) : 0 ≤ n := by
  obtain ⟨rfl, hle⟩ := requireMinorUnits_eq_ok.mp h
  exact hle

theorem current_afterFailure {p : ExecutionPlan} {rttId routeId code : String}
    {disposition : FailureDisposition} {cost : Int} {instant : Instant} :
    ∀ c ∈ (p.afterFailure rttId routeId code disposition cost instant).currentRttId, c = rttId := by
  intro c hc
  simp only [ExecutionPlan.afterFailure, Option.mem_def] at hc
  split at hc
  · exact (Option.some.inj hc).symm
  · cases hc

theorem outcome_afterFailure {a : RttAttemptRecord} {code : String}
    {disposition : FailureDisposition} {cost : Int} {instant : Instant} :
    (a.afterFailure code disposition cost instant).state ≠ .created := by
  simp only [RttAttemptRecord.afterFailure]
  split <;> nofun

namespace Concludes

variable {q p : ExecutionPlan} {b a : RttAttemptRecord} {r : String}

theorem sameAttempt (h : Concludes q b r p a) : SameAttempt b a := by
  cases h <;> exact ⟨rfl, rfl, rfl, rfl, rfl, rfl⟩

theorem version (h : Concludes q b r p a) : p.version = q.version + 1 := by
  cases h <;> rfl

theorem outcome (h : Concludes q b r p a) : a.state ≠ .created := by
  cases h with
  | failure => exact outcome_afterFailure
  | success => nofun

theorem previous (h : Concludes q b r p a) : p.previousRttId = some r := by
  cases h <;> rfl

theorem current (h : Concludes q b r p a) : ∀ c ∈ p.currentRttId, c = r := by
  cases h with
  | failure => exact current_afterFailure
  | success => nofun

end Concludes

/-- How a transition is issued, when attempt and plan were read before it in two steps. -/
theorem issued_of_reads {s₁ s₂ s₃ : ExecutionStore} {key rttId : String}
    {a a' : RttAttemptRecord} {p p' : ExecutionPlan} (h₁₂ : s₁.Evolves s₂) (h₂₃ : s₂.Evolves s₃)
    (hi₁ : s₁.Consistent) (hi₂ : s₂.Consistent) (ha : s₁.attempts.get? key = some a)
    (hp : s₂.plans.get? a.planId = some p) (hname : strip rttId = key)
    (hconcludes : Concludes p a rttId p' a') :
    TransitionIssued (some rttId) s₃ p.version p' a' := by
  have hkey : a.rttId = key := (hi₁.attemptKey ha).1
  have hpid : p.planId = a.planId := hi₂.planKey hp
  have hplan : SamePlan p p' := hconcludes.samePlan
  have hattempt : SameAttempt a a' := hconcludes.sameAttempt
  refine ⟨hconcludes.version, ?_, hconcludes.outcome, ?_, ⟨rttId, rfl, hconcludes.previous, ?_,
    hconcludes.current⟩, fun q hq hver => ?_⟩
  · rw [hattempt.planId, hplan.planId, hpid]
  · obtain ⟨b, hb, hab⟩ := (h₁₂.trans h₂₃).attempt ha
    exact ⟨b, by rw [hattempt.rttId, hkey, hb], hab.symm.trans hattempt⟩
  · rw [hattempt.rttId, hkey, hname]
  · -- the plan is still the one that was read
    obtain ⟨q', hq', -, -, hsame, -⟩ := h₂₃.plan hp
    rw [hplan.planId, hpid, hq', Option.some.injEq] at hq
    subst hq
    rw [(hsame hver).1]
    exact ⟨a, rttId, rfl, hattempt, hconcludes⟩

/-- What a committed transition does, when attempt and plan were read before it in two steps. -/
theorem effect_of_commitTransition {cause : ExecutionCause} {s₁ s₂ s₃ st : ExecutionStore}
    {key : String} {a a' : RttAttemptRecord} {p p' : ExecutionPlan} {u : Unit}
    (h₁₂ : s₁.Evolves s₂) (h₂₃ : s₂.Evolves s₃) (hi₁ : s₁.Consistent) (hi₂ : s₂.Consistent)
    (hi₃ : s₃.Consistent) (ha : s₁.attempts.get? key = some a)
    (hp : s₂.plans.get? a.planId = some p)
    (hst : s₃.commitTransition p.version p' a' = .ok (u, st)) (hplan : SamePlan p p')
    (hversion : p'.version = p.version + 1) (hused : p'.attemptsUsed = p.attemptsUsed)
    (hattempt : SameAttempt a a') (hcause : cause.mayReach p'.status = true)
    (hcloses : Closes p' a')
    (hname : ∀ c, p'.currentRttId = some c → ∃ disposition, cause = .recordFailure c disposition)
    (hreported : ∀ c disposition, cause = .recordFailure c disposition → strip c = key)
    (hnotParked : rules.strict → cause.isRecord = true →
      ∀ b, s₂.attempts.get? key = some b → b.state ≠ .reconciliationRequired) :
    ExecutionEffect rules cause s₃ st := by
  obtain ⟨rfl, ⟨current, hcurrent, hver, hinflight⟩, prior, hprior⟩ :=
    ExecutionStore.commitTransition_eq_ok hst
  have hkey : a.rttId = key := (hi₁.attemptKey ha).1
  have hpid : p.planId = a.planId := hi₂.planKey hp
  -- the plan is still the one that was read
  obtain ⟨q, hq, -, -, hsame, -⟩ := h₂₃.plan hp
  rw [hplan.planId, hpid, hq, Option.some.injEq] at hcurrent
  subst hcurrent
  obtain ⟨hqp, has⟩ := hsame hver
  rw [hqp] at hq hinflight
  -- the stored attempt is another record of the one that was read
  obtain ⟨b, hb, hab⟩ := (h₁₂.trans h₂₃).attempt ha
  rw [hattempt.rttId, hkey, hb] at hprior
  cases hprior
  have hbkey : prior.rttId = key := hab.rttId.trans hkey
  have hbplan : prior.planId = p.planId := hab.planId.trans hpid.symm
  refine .closed p p' prior a' hcause ?_ (hpid ▸ hq) hplan hversion hused (hbkey ▸ hb) hbplan ?_
    (hab.symm.trans hattempt) hcloses hname
    (fun c disposition h => (hreported c disposition h).trans hbkey.symm) ?_
  · by_contra hterm
    rw [Bool.not_eq_false] at hterm
    rw [(hi₃.agrees hq).terminal hterm] at hinflight
    cases hinflight
  · rw [hinflight, hattempt.rttId, hab.rttId]
  · intro hs hr
    obtain ⟨a₂, ha₂, haa₂⟩ := h₁₂.attempt ha
    have hmem : a₂ ∈ s₃.attemptsOf a.planId := by
      rw [has]
      exact ExecutionStore.mem_attemptsOf.mpr ⟨⟨key, ha₂⟩, haa₂.planId⟩
    obtain ⟨⟨r, hr₃⟩, -⟩ := ExecutionStore.mem_attemptsOf.mp hmem
    have hrkey : r = key := by
      rw [← (hi₃.attemptKey hr₃).1, haa₂.rttId, hkey]
    rw [hrkey, hb] at hr₃
    cases hr₃
    -- the attempt in flight is open, and it was not parked when the plan was read
    have hopen := ((hi₃.agrees hq).inFlight prior hmem).mpr ⟨_, hinflight, by
      rw [hattempt.rttId, hkey, hbkey]
      exact (hi₃.attemptKey hb).2⟩
    have hne := hnotParked hs hr prior ha₂
    cases hstate : prior.state with
    | created => rfl
    | reconciliationRequired => exact absurd hstate hne
    | failed | succeeded =>
      rw [hstate] at hopen
      cases hopen

/-- `start_next` may only start an attempt. -/
theorem respects_startNext
    (hattempt : ∀ plan a, AttemptOrigin d guard plan a → rules.attempt plan a) (uttId : String)
    (at_ : Datetime) :
    Respects d guard rules .start none (RttAttemptService.startNext d uttId at_) w := by
  unfold RttAttemptService.startNext
  refine Respects.lift fun instant _ => Respects.lift fun key hkey => ?_
  obtain ⟨rfl, -⟩ := requireText_eq_ok.mp hkey
  refine Respects.requireUtt fun signedUtt w₁ _ h₁ hg₁ hutt => ?_
  refine Respects.skip (ops_requireValid nofun) h₁ fun _ w₂ _ h₂ => ?_
  refine Respects.lift fun _ _ => ?_
  refine Respects.skip (RttAttemptService.ops_validateEndpoints.mono fun _ h => by simp [h]) h₂
    fun _ w₃ _ h₃ => ?_
  refine Respects.requirePlanForUtt fun plan w₄ planId _ h₄ hid hget => ?_
  obtain ⟨q, hq, hqutt⟩ := h₄.planOfUtt.mp hid
  rw [hget] at hq
  cases hq
  refine Respects.lift fun selected hsel => Respects.lift fun rttId hrtt => ?_
  refine Respects.lift fun uttHash hhash => Respects.lift fun payload hpayload => ?_
  refine Respects.sign fun signedRtt w₅ w₅' h₄₅ h₅ hexec hg₅ hsigned => ?_
  unfold Code.commitStart
  rw [Prog.bind_assoc]
  refine Respects.requireUtt fun e w₆ h₅₆ h₆ hg₆ he => ?_
  have hplanId : plan.planId = planId := h₄.planKey hget
  -- when the version is still the one that was read, so is the plan
  have hstill : ∀ w₇ q, protocol.Rely w₆ w₇ → w₇.executions.plans.get? planId = some q →
      q.version = plan.version → q = plan := by
    intro w₇ q h₆₇ hq hver
    have hexec' : w₅.executions.Evolves w₅'.executions := hexec ▸ .refl _
    obtain ⟨q', hq', -, -, hsame, -⟩ := ((h₄₅.trans (hexec'.trans h₅₆)).trans h₆₇).plan hget
    rw [hq', Option.some.injEq] at hq
    subst hq
    exact (hsame hver).1
  refine Respects.commit (fun r => by cases r <;> exact ⟨_, rfl⟩) (fun _ _ _ => sem_commitStart)
    (fun w₇ h₆₇ _ => ?_) fun w₇ h₆₇ h₇ _ st hst => ?_
  · refine ⟨rfl, ⟨hqutt.symm, rfl⟩, rfl, fun q hq hver => ?_⟩
    obtain rfl := hstill w₇ q h₆₇ (hplanId ▸ hq) hver
    refine ⟨selected, instant, uttHash, hsel, rfl, ?_, ?_⟩
    · rw [← hqutt]
      rfl
    · change _ = Except.ok signedRtt.payload
      rw [(SignatureService.signArtifact_eq_ok hsigned).1, ← hpayload, ← hqutt]
      rfl
  obtain ⟨hstatus, hidle, hlimit, hselected, -⟩ := RttAttemptService.selectRoute_eq_ok hsel
  obtain ⟨rfl, hlineage, -, hfresh, current, hcurrent, hver, -⟩ :=
    ExecutionStore.commitStart_eq_ok hst
  have hq : w₇.executions.plans.get? planId = some current := hplanId ▸ hcurrent
  obtain rfl : plan = current := (hstill w₇ current h₆₇ hq hver).symm
  refine .started plan _ _ rfl (hplanId ▸ hq) ⟨rfl, rfl, rfl, rfl, rfl⟩ rfl
    ⟨hstatus, hidle, hlimit⟩ ⟨hstatus, rfl, rfl⟩ hfresh (d.rt.strip_contentId (by decide) hrtt)
    ⟨rfl, hlineage⟩ ⟨rfl, rfl⟩ (hattempt _ _ ⟨?_, ?_, ?_⟩)
  · refine ⟨w₁, signedUtt, uttHash, selected, instant, hqutt ▸ hg₁, hqutt ▸ hutt,
      Fields.item_eq_ok.mp hhash, hselected, ?_⟩
    change _ = Except.ok signedRtt.payload
    rw [(SignatureService.signArtifact_eq_ok hsigned).1]
    exact hpayload
  · exact ⟨w₅, payload, instant, hg₅, hsigned⟩
  · exact ⟨w₆, e, hg₆, he⟩

/-- `record_failure` may only report a failure with its disposition. -/
theorem respects_recordFailure (rttId failureCode : String) (disposition : FailureDisposition)
    (actualCostMinor : Int) (at_ : Datetime)
    (hguard : rules.strict → ∀ planId w, guard (.requirePlan planId) w →
      ∀ b, w.executions.attempts.get? (strip rttId) = some b → b.state ≠ .reconciliationRequired) :
    Respects d guard rules (.recordFailure rttId disposition) (some rttId)
      (RttAttemptService.recordFailure d rttId failureCode disposition actualCostMinor at_) w := by
  unfold RttAttemptService.recordFailure
  refine Respects.lift fun instant _ => Respects.lift fun cost hcost => ?_
  refine Respects.lift fun code _ => Respects.lift fun key hkey => ?_
  obtain ⟨rfl, -⟩ := requireText_eq_ok.mp hkey
  refine Respects.requireAttempt fun a w₁ _ h₁ _ ha => Respects.lift fun _ _ => ?_
  refine Respects.requirePlan fun p w₂ h₁₂ h₂ hg hp => ?_
  refine Respects.commit (fun r => by cases r <;> exact ⟨_, rfl⟩)
    (fun _ _ _ => sem_commitTransition) (fun w₃ h₂₃ _ => ?_) fun w₃ h₂₃ h₃ _ st hst => ?_
  · exact issued_of_reads h₁₂ h₂₃ h₁ h₂ ha hp rfl
      (.failure _ _ _ _ (nonneg_of_requireMinorUnits hcost))
  · exact effect_of_commitTransition h₁₂ h₂₃ h₁ h₂ h₃ ha hp hst
      ⟨rfl, rfl, rfl, rfl, rfl⟩ rfl rfl ⟨rfl, rfl, rfl, rfl, rfl, rfl⟩ mayReach_afterFailure
      (closes_afterFailure (h₁.attemptKey ha).1.symm) (fun _ => name_afterFailure)
      (by rintro _ _ ⟨⟩; rfl) fun hs _ => hguard hs _ _ hg

/-- `record_success` may only finalize the plan. -/
theorem respects_recordSuccess (rttId : String) (actualCostMinor : Int) (at_ : Datetime)
    (hguard : rules.strict → ∀ planId w, guard (.requirePlan planId) w →
      ∀ b, w.executions.attempts.get? (strip rttId) = some b → b.state ≠ .reconciliationRequired) :
    Respects d guard rules .recordSuccess (some rttId)
      (RttAttemptService.recordSuccess rttId actualCostMinor at_) w := by
  unfold RttAttemptService.recordSuccess
  refine Respects.lift fun instant _ => Respects.lift fun cost hcost => ?_
  refine Respects.lift fun key hkey => ?_
  obtain ⟨rfl, -⟩ := requireText_eq_ok.mp hkey
  refine Respects.requireAttempt fun a w₁ _ h₁ _ ha => Respects.lift fun _ _ => ?_
  refine Respects.requirePlan fun p w₂ h₁₂ h₂ hg hp => ?_
  refine Respects.commit (fun r => by cases r <;> exact ⟨_, rfl⟩)
    (fun _ _ _ => sem_commitTransition) (fun w₃ h₂₃ _ => ?_) fun w₃ h₂₃ h₃ _ st hst => ?_
  · exact issued_of_reads h₁₂ h₂₃ h₁ h₂ ha hp rfl
      (.success _ _ (nonneg_of_requireMinorUnits hcost))
  · exact effect_of_commitTransition h₁₂ h₂₃ h₁ h₂ h₃ ha hp hst ⟨rfl, rfl, rfl, rfl, rfl⟩ rfl rfl
      ⟨rfl, rfl, rfl, rfl, rfl, rfl⟩ rfl (.succeeded rfl rfl rfl rfl) nofun nofun
      fun hs _ => hguard hs _ _ hg

/-- `resolve_reconciliation` may only resolve the attempt that awaits it. -/
theorem respects_resolveReconciliation (rttId : String) (succeeded : Bool) (actualCostMinor : Int)
    (failureCode : Option String) (failureDisposition : FailureDisposition) (at_ : Datetime) :
    Respects d guard rules .resolve (some rttId)
      (RttAttemptService.resolveReconciliation d rttId succeeded actualCostMinor failureCode
        failureDisposition at_) w := by
  unfold RttAttemptService.resolveReconciliation
  refine Respects.lift fun instant _ => Respects.lift fun cost hcost => ?_
  refine Respects.lift fun key hkey => ?_
  obtain ⟨rfl, -⟩ := requireText_eq_ok.mp hkey
  refine Respects.requireAttempt fun a w₁ _ h₁ _ ha => Respects.lift fun _ _ => ?_
  refine Respects.requirePlan fun p w₂ h₁₂ h₂ hg hp => ?_
  refine Respects.lift fun _ _ => Respects.lift fun updated hupd => ?_
  refine Respects.commit (fun r => by cases r <;> exact ⟨_, rfl⟩)
    (fun _ _ _ => sem_commitTransition) (fun w₃ h₂₃ _ => ?_) fun w₃ h₂₃ h₃ _ st hst => ?_
  · rcases RttAttemptService.resolution_eq_ok hupd with rfl | ⟨hdisp, code, rfl⟩
    · exact issued_of_reads h₁₂ h₂₃ h₁ h₂ ha hp rfl
        (.success _ _ (nonneg_of_requireMinorUnits hcost))
    · exact issued_of_reads h₁₂ h₂₃ h₁ h₂ ha hp rfl
        (.failure _ _ _ _ (nonneg_of_requireMinorUnits hcost))
  rcases RttAttemptService.resolution_eq_ok hupd with rfl | ⟨hdisp, code, rfl⟩
  · exact effect_of_commitTransition h₁₂ h₂₃ h₁ h₂ h₃ ha hp hst ⟨rfl, rfl, rfl, rfl, rfl⟩ rfl rfl
      ⟨rfl, rfl, rfl, rfl, rfl, rfl⟩ rfl (.succeeded rfl rfl rfl rfl) nofun nofun fun _ h => by cases h
  · exact effect_of_commitTransition h₁₂ h₂₃ h₁ h₂ h₃ ha hp hst ⟨rfl, rfl, rfl, rfl, rfl⟩ rfl rfl
      ⟨rfl, rfl, rfl, rfl, rfl, rfl⟩ (mayReach_resolve hdisp)
      (closes_afterFailure (h₁.attemptKey ha).1.symm) (not_parked_afterFailure hdisp)
      nofun fun _ h => by cases h

end Calls

end Execution

end RailOne
