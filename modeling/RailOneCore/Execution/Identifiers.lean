import RailOneCore.Execution.Lineage
import RailOneCore.Execution.Reconciliation
import RailOneCore.Platform.Persistence

/-!
# Identifiers with surrounding white space

The attempt service looks an attempt up under the trimmed identifier, but writes the identifier as it
was passed into the failures and the pointers of the plan, and compares the pointer with it.  A report
through a padded identifier therefore leaves another plan than the same report through the trimmed
one, and a plan that has been parked through a padded identifier can no longer be resolved at all: the
resolution compares its pointer with the identifier, and the commit compares it with the attempt.

For each operation the file says exactly when the two calls leave the same stores, in every reachable
world.
-/

namespace RailOne

open Concurrent Ordered

/-! ## What is stored -/

/-- The identifiers of the stored UTTs are trimmed. -/
def ContractStore.Trimmed (st : ContractStore) : Prop :=
  ∀ id e, st.utts.get? id = some e → strip id = id

theorem ContractStore.Trimmed.empty : ContractStore.empty.Trimmed := by
  intro id e h
  simp [ContractStore.empty] at h

/-- An attempt without an outcome is the one that its plan points to, to the letter. -/
def ExecutionStore.PointsToCreated (st : ExecutionStore) : Prop :=
  ∀ r a, st.attempts.get? r = some a → a.state = .created →
    ∃ p, st.plans.get? a.planId = some p ∧ p.currentRttId = some r

/-- The pointers of all plans are trimmed. -/
def ExecutionStore.TrimmedPointers (st : ExecutionStore) : Prop :=
  ∀ id p c, st.plans.get? id = some p → p.currentRttId = some c → strip c = c

/-- The identifiers of attempts are not empty. -/
def ExecutionStore.Named (st : ExecutionStore) : Prop := ∀ r a, st.attempts.get? r = some a → r ≠ ""

/-- An acceptance is committed under a trimmed identifier, and a start under one that is not empty. -/
def Op.Names : Op → Prop
  | .commitAcceptance _ contract => strip contract.uttId = contract.uttId
  | .commitStart _ _ attempt => attempt.rttId ≠ ""
  | _ => True

namespace Execution

variable {d : Deployment} {w₀ w : World} {x : Config Op.Resp Call Exn Reply World}

/-! ## New identifiers -/

theorem names_of_part {o : Op} (ho : o.part ≠ .contracts ∧ o.part ≠ .executions) : o.Names := by
  cases o
  case commitAcceptance => exact absurd rfl ho.1
  case commitStart => exact absurd rfl ho.2
  all_goals trivial

theorem ops_names_of_quiet {α : Type} {p : Code α}
    (hp : p.Ops fun o => o.part ≠ .contracts ∧ o.part ≠ .executions) : p.Ops Op.Names :=
  hp.mono fun _ => names_of_part

theorem ops_accept_names {command : QuoteAcceptanceCommand} {at_ : Datetime} :
    (QuoteAcceptanceService.accept d command at_).Ops Op.Names := by
  unfold QuoteAcceptanceService.accept
  refine Prog.Ops.lift fun key _ => Prog.Ops.lift fun originPayload _ => ?_
  refine Prog.Ops.lift fun material _ => Prog.Ops.lift fun sha _ => ?_
  refine Prog.Ops.bind (ops_call.mpr trivial) fun existing => ?_
  cases existing with
  | some existing => exact Prog.ops_ret _
  | none =>
    change (QuoteAcceptanceService.acceptNew d command key sha originPayload at_).Ops _
    unfold QuoteAcceptanceService.acceptNew
    refine Prog.Ops.lift fun acceptedAt _ => ?_
    refine Prog.Ops.bind (ops_names_of_quiet (ops_requireValid ⟨nofun, nofun⟩)) fun _ => ?_
    refine Prog.Ops.lift fun _ _ => Prog.Ops.lift fun core _ => Prog.Ops.lift fun uttId hutt => ?_
    refine Prog.Ops.lift fun authority _ => ?_
    refine Prog.Ops.bind (ops_call.mpr trivial) fun senderAuthority => Prog.Ops.lift fun etkSId _ => ?_
    refine Prog.Ops.bind (ops_call.mpr trivial) fun signedUtt => Prog.Ops.lift fun quoteId _ => ?_
    -- the identifier of the UTT is derived from its content
    have htrimmed : strip uttId = uttId := d.rt.strip_contentId (by decide) hutt
    exact Prog.Ops.bind (ops_call.mpr htrimmed) fun _ => Prog.ops_ret _

theorem ops_startNext_names {uttId : String} {at_ : Datetime} :
    (RttAttemptService.startNext d uttId at_).Ops Op.Names := by
  unfold RttAttemptService.startNext Code.commitStart
  refine Prog.Ops.lift fun instant _ => Prog.Ops.lift fun key _ => ?_
  refine Prog.Ops.bind (ops_call.mpr trivial) fun signedUtt => ?_
  refine Prog.Ops.bind (ops_names_of_quiet (ops_requireValid ⟨nofun, nofun⟩)) fun _ => ?_
  refine Prog.Ops.lift fun _ _ => Prog.Ops.bind (ops_names_of_quiet ?_) fun _ => ?_
  · exact RttAttemptService.ops_validateEndpoints.mono fun _ ho => by simp [ho]
  refine Prog.Ops.bind (ops_call.mpr trivial) fun plan => Prog.Ops.lift fun selected _ => ?_
  refine Prog.Ops.lift fun rttId hrtt => Prog.Ops.lift fun uttHash _ => ?_
  refine Prog.Ops.lift fun payload _ => Prog.Ops.bind (ops_call.mpr trivial) fun signedRtt => ?_
  -- the identifier of the attempt is derived from its content
  have hnamed : rttId ≠ "" := by
    obtain ⟨bytes, -, rfl⟩ := d.rt.contentId_eq_ok.mp hrtt
    intro hempty
    have hlist := congrArg String.toList hempty
    simp at hlist
  refine Prog.Ops.bind (Prog.Ops.bind (ops_call.mpr trivial) fun _ => ops_call.mpr hnamed) fun _ => ?_
  exact Prog.ops_ret _

theorem ops_buildPlan_names {uttId : String} {candidates : List RouteCandidate} {at_ : Datetime} :
    (ExecutionPlanningService.buildPlan d uttId candidates at_).Ops Op.Names := by
  unfold ExecutionPlanningService.buildPlan Code.createPlan
  refine Prog.Ops.lift fun _ _ => Prog.Ops.lift fun _ _ => Prog.Ops.bind (ops_call.mpr trivial) fun _ => ?_
  refine Prog.Ops.bind (ops_names_of_quiet (ops_requireValid ⟨nofun, nofun⟩)) fun _ => ?_
  exact Prog.Ops.lift fun _ _ => Prog.Ops.bind (ops_call.mpr trivial) fun _ => ops_call.mpr trivial

theorem ops_recordFailure_names {rttId code : String} {disposition : FailureDisposition}
    {cost : Int} {at_ : Datetime} :
    (RttAttemptService.recordFailure d rttId code disposition cost at_).Ops Op.Names := by
  unfold RttAttemptService.recordFailure
  refine Prog.Ops.lift fun _ _ => Prog.Ops.lift fun _ _ => Prog.Ops.lift fun _ _ => ?_
  refine Prog.Ops.lift fun _ _ => Prog.Ops.bind (ops_call.mpr trivial) fun _ => ?_
  refine Prog.Ops.lift fun _ _ => Prog.Ops.bind (ops_call.mpr trivial) fun _ => ?_
  exact Prog.Ops.bind (ops_call.mpr trivial) fun _ => Prog.ops_ret _

theorem ops_recordSuccess_names {rttId : String} {cost : Int} {at_ : Datetime} :
    (RttAttemptService.recordSuccess rttId cost at_).Ops Op.Names := by
  unfold RttAttemptService.recordSuccess
  refine Prog.Ops.lift fun _ _ => Prog.Ops.lift fun _ _ => Prog.Ops.lift fun _ _ => ?_
  refine Prog.Ops.bind (ops_call.mpr trivial) fun _ => Prog.Ops.lift fun _ _ => ?_
  refine Prog.Ops.bind (ops_call.mpr trivial) fun _ => ?_
  exact Prog.Ops.bind (ops_call.mpr trivial) fun _ => Prog.ops_ret _

theorem ops_resolveReconciliation_names {rttId : String} {succeeded : Bool} {cost : Int}
    {code : Option String} {disposition : FailureDisposition} {at_ : Datetime} :
    (RttAttemptService.resolveReconciliation d rttId succeeded cost code disposition at_).Ops
      Op.Names := by
  unfold RttAttemptService.resolveReconciliation
  refine Prog.Ops.lift fun _ _ => Prog.Ops.lift fun _ _ => Prog.Ops.lift fun _ _ => ?_
  refine Prog.Ops.bind (ops_call.mpr trivial) fun _ => Prog.Ops.lift fun _ _ => ?_
  refine Prog.Ops.bind (ops_call.mpr trivial) fun _ => Prog.Ops.lift fun _ _ => ?_
  refine Prog.Ops.lift fun _ _ => Prog.Ops.bind (ops_call.mpr trivial) fun _ => Prog.ops_ret _

theorem ops_body_names (c : Call) : (c.body d).Ops Op.Names := by
  cases c with
  | accept => exact ops_map _ ops_accept_names
  | startNext => exact ops_map _ ops_startNext_names
  | buildPlan => exact ops_map _ ops_buildPlan_names
  | recordFailure => exact ops_map _ ops_recordFailure_names
  | recordSuccess => exact ops_map _ ops_recordSuccess_names
  | resolveReconciliation => exact ops_map _ ops_resolveReconciliation_names
  | issueQuote | prepare | dispatch | publishBatch =>
    refine ops_names_of_quiet ((ops_body d _).mono fun o ho => ?_)
    constructor <;> intro heq <;> rw [heq] at ho <;> simp [Call.parts] at ho

/-- What is known of the identifiers in the stores. -/
def WellNamed (w : World) : Prop := w.contracts.Trimmed ∧ w.executions.Named

theorem trimmed_of_sem {o : Op} {w' : World} {r : o.Resp} (ho : o.Names)
    (hw : w.contracts.Trimmed) (h : World.sem d.rt o w r w') : w'.contracts.Trimmed := by
  by_cases hpart : o.part = .contracts
  · cases o <;> simp only [Op.part, reduceCtorEq] at hpart
    case commitAcceptance key contract =>
      rcases Commits.cases h with ⟨res, st, hst, -, rfl⟩ | ⟨exn, -, -, rfl⟩
      · rcases ContractStore.commitAcceptance_eq_ok hst with ⟨rfl, -⟩ | ⟨-, -, -, -, -, -, hutts⟩
        · exact hw
        · intro id e he
          change st.utts.get? id = some e at he
          rw [hutts, Dict.get?_set] at he
          split_ifs at he with heq
          · rw [heq]
            exact ho
          · exact hw id e he
      · exact hw
  · rw [(World.frame_of_sem h).contracts hpart]
    exact hw

theorem named_of_put {st : ExecutionStore} {p : ExecutionPlan} {a : RttAttemptRecord}
    (hst : st.Named) (ha : a.rttId ≠ "") : (st.put p a).Named := by
  intro r b hb
  rw [ExecutionStore.attempts_put, Dict.get?_set] at hb
  split_ifs at hb with heq
  · rw [heq]
    exact ha
  · exact hst r b hb

theorem named_of_sem {o : Op} {w' : World} {r : o.Resp} (ho : o.Names)
    (hw : w.executions.Named) (h : World.sem d.rt o w r w') : w'.executions.Named := by
  by_cases hpart : o.part = .executions
  · cases o <;> simp only [Op.part, reduceCtorEq] at hpart
    case createPlan p =>
      rcases (sem_createPlan.mp h).cases with ⟨_, st, hst, -, rfl⟩ | ⟨_, -, -, rfl⟩
      · rcases ExecutionStore.createPlan_eq_ok hst with ⟨rfl, -⟩ | ⟨-, -, rfl⟩
        · exact hw
        · exact hw
      · exact hw
    case commitStart v p a =>
      rcases (sem_commitStart.mp h).cases with ⟨_, st, hst, -, rfl⟩ | ⟨_, -, -, rfl⟩
      · obtain ⟨rfl, -⟩ := ExecutionStore.commitStart_eq_ok hst
        exact named_of_put hw ho
      · exact hw
    case commitTransition v p a =>
      rcases (sem_commitTransition.mp h).cases with ⟨_, st, hst, -, rfl⟩ | ⟨_, -, -, rfl⟩
      · obtain ⟨rfl, -, prior, hprior⟩ := ExecutionStore.commitTransition_eq_ok hst
        exact named_of_put hw (hw _ _ hprior)
      · exact hw
  · rw [(World.frame_of_sem h).executions hpart]
    exact hw

/-- Identifiers are as they should be in every reachable world. -/
theorem wellNamed_of_reachable (hutts : w₀.contracts.Trimmed) (h₀ : w₀.executions = .empty)
    (hx : (system d).Reachable w₀ x) : WellNamed x.state := by
  have hw₀ : WellNamed w₀ := by
    refine ⟨hutts, fun r a ha => ?_⟩
    rw [h₀] at ha
    simp [ExecutionStore.empty] at ha
  have hguard : ∀ (c : Call) (o : Op) (w : World), WellNamed w →
      (fun (_ : Call) (_ : Op) (_ : World) => True) c o w := fun _ _ _ _ => trivial
  exact ((system d).steps_guarded_of_ops (J := WellNamed) (P := Op.Names)
    (fun _ _ _ _ _ ho hw hs => ⟨trimmed_of_sem ho hw.1 hs, named_of_sem ho hw.2 hs⟩)
    hguard hw₀ (by simp) (fun t _ => ops_body_names t.call) hx).2.1

/-! ## Attempts and pointers -/

/-- A plan with an attempt without outcome has no other one. -/
theorem eq_of_created {st : ExecutionStore} (hs : st.Consistent) {p : ExecutionPlan}
    {r c : String} {b : RttAttemptRecord} (hp : st.plans.get? b.planId = some p)
    (hcurrent : p.currentRttId = some c) (hc : strip c = c) (hb : st.attempts.get? r = some b)
    (hcreated : b.state = .created) : r = c := by
  obtain ⟨hkey, -⟩ := hs.attemptKey hb
  have hmem : b ∈ st.attemptsOf b.planId := ExecutionStore.mem_attemptsOf.mpr ⟨⟨r, hb⟩, rfl⟩
  obtain ⟨c', hc', hid⟩ := ((hs.agrees hp).inFlight b hmem).mp (by rw [hcreated]; rfl)
  rw [hcurrent, Option.some.injEq] at hc'
  rw [← hc', hc, hkey] at hid
  exact hid.symm

theorem not_created_of_concludes {q p : ExecutionPlan} {b a : RttAttemptRecord} {r : String}
    (h : Concludes q b r p a) : a.state ≠ .created := by
  cases h with
  | failure code disposition cost instant hcost =>
    unfold RttAttemptRecord.afterFailure
    dsimp only
    split_ifs <;> exact nofun
  | success => exact nofun

theorem pointsToCreated_of_advances {named : Option String} {o : Op} {s s' : ExecutionStore}
    (hs : s.Consistent) (hpoints : s.PointsToCreated) (h : Advances d named o s s') :
    s'.PointsToCreated := by
  cases h with
  | unchanged => exact hpoints
  | planned p signedUtt candidates instant hdraft hutt hid =>
    intro r a ha hcreated
    obtain ⟨q, hq, hcurrent⟩ := hpoints r a ha hcreated
    refine ⟨q, ?_, hcurrent⟩
    rw [Dict.get?_set, if_neg fun heq => by rw [heq, hid] at hq; cases hq]
    exact hq
  | started q a selected instant uttHash hq hselected hfresh ha hpayload =>
    intro r b hb hcreated
    have hplan : a.planId = q.planId := by rw [ha]; rfl
    rw [ExecutionStore.attempts_put, Dict.get?_set] at hb
    rw [ExecutionStore.plans_put, Dict.get?_set]
    split_ifs at hb with heq
    · cases hb
      exact ⟨_, if_pos hplan, by rw [heq]; rfl⟩
    · -- the plan that starts has no open attempt
      obtain ⟨p, hp, hcurrent⟩ := hpoints r b hb hcreated
      refine ⟨p, ?_, hcurrent⟩
      rw [if_neg fun hbq => ?_]
      · exact hp
      · rw [show b.planId = q.planId from hbq, hq, Option.some.injEq] at hp
        rw [← hp, (RttAttemptService.selectRoute_eq_ok hselected).2.1] at hcurrent
        cases hcurrent
  | concluded q p b prior a r hnamed ho hq hcurrent hprior hsame hplan hr hb hconcludes =>
    intro r' b' hb' hcreated
    have hid : p.planId = q.planId := hconcludes.samePlan.planId
    rw [ExecutionStore.attempts_put, Dict.get?_set] at hb'
    rw [ExecutionStore.plans_put, Dict.get?_set]
    split_ifs at hb' with heq
    · cases hb'
      exact absurd hcreated (not_created_of_concludes hconcludes)
    · -- another attempt without outcome belongs to another plan
      obtain ⟨p', hp', hcurrent'⟩ := hpoints r' b' hb' hcreated
      refine ⟨p', ?_, hcurrent'⟩
      rw [if_neg fun hbq => ?_]
      · exact hp'
      · have hq' : s.plans.get? b'.planId = some q := by rw [hbq, hid, hq]
        exact heq (eq_of_created hs hq' hcurrent (hr ▸ strip_strip r) hb' hcreated)

theorem pointsToCreated_of_reachable (h₀ : w₀.executions = .empty) (hx : (system d).Reachable w₀ x) :
    x.state.executions.PointsToCreated := by
  have hbare : ((system d).guarded fun _ _ _ => True).Reachable w₀ x :=
    (system d).steps_guarded_of_forall (fun _ _ _ => trivial) hx
  refine invariant_of_reachable (J := ExecutionStore.PointsToCreated) (K := fun _ => True) h₀ ?_ ?_
    (fun _ _ => trivial) hbare
  · intro r a ha
    simp [ExecutionStore.empty] at ha
  · exact fun _ _ _ _ _ hs hpoints _ _ hadv _ => pointsToCreated_of_advances hs hpoints hadv

theorem trimmedPointers_of_advances {named : Option String} {o : Op} {s s' : ExecutionStore}
    (hs : s'.Consistent) (hpoints : s.TrimmedPointers) (hnamed' : ∀ r, named = some r → strip r = r)
    (h : Advances d named o s s') : s'.TrimmedPointers := by
  intro id p' c hp' hcurrent'
  cases h with
  | unchanged => exact hpoints id p' c hp' hcurrent'
  | planned p signedUtt candidates instant hdraft hutt hid =>
    rw [Dict.get?_set] at hp'
    split_ifs at hp'
    · cases hp'
      rw [(new_of_draft hdraft).2.1] at hcurrent'
      cases hcurrent'
    · exact hpoints id p' c hp' hcurrent'
  | started q a selected instant uttHash hq hselected hfresh ha hpayload =>
    rcases plan_of_put hp' with ⟨-, rfl⟩ | ⟨-, hold⟩
    · have hstored : (s.put (q.afterStart a.rttId selected.candidate.routeId instant) a).attempts.get?
          a.rttId = some a := Dict.get?_set_self _ _ _
      cases hcurrent'
      exact (hs.attemptKey hstored).2
    · exact hpoints id p' c hold hcurrent'
  | concluded q p b prior a r hnamed ho hq hcurrent hprior hsame hplan hr hb hconcludes =>
    rcases plan_of_put hp' with ⟨-, rfl⟩ | ⟨-, hold⟩
    · cases hconcludes with
      | failure code disposition cost instant hcost =>
        unfold ExecutionPlan.afterFailure at hcurrent'
        dsimp only at hcurrent'
        split_ifs at hcurrent'
        · cases hcurrent'
          exact hnamed' _ hnamed
      | success => cases hcurrent'
    · exact hpoints id p' c hold hcurrent'

/-- Where all calls name their RTTs trimmed, all pointers are trimmed. -/
theorem trimmedPointers_of_reachable (h₀ : w₀.executions = .empty) (hx : (system d).Reachable w₀ x)
    (hcalls : ∀ t ∈ x.threads, ∀ r, t.call.named = some r → strip r = r) :
    x.state.executions.TrimmedPointers := by
  have hguarded : ((system d).guarded fun c _ _ => ∀ r, c.named = some r → strip r = r).Reachable
      w₀ x := (system d).steps_guarded_of_calls hcalls hx
  refine invariant_of_reachable (J := ExecutionStore.TrimmedPointers)
    (K := ExecutionStore.Consistent) h₀ ?_ ?_ ?_ hguarded
  · intro id p c hp
    simp [ExecutionStore.empty] at hp
  · exact fun c _ _ _ _ _ hpoints hc _ hadv hs => trimmedPointers_of_advances hs hpoints hc hadv
  · exact fun y hy => consistent_of_reachable (h₀ ▸ .empty) ((system d).steps_of_guarded hy)

/-! ## The three operations that conclude an attempt -/

/-- The scheme of the operations that give an attempt an outcome: check the arguments, look the attempt
and its plan up, compute the new records, and commit them. -/
def concluding {γ : Type} (checks : Except Exn (String × γ))
    (ready : RttAttemptRecord → Except Exn Unit)
    (make : γ → ExecutionPlan → RttAttemptRecord → Except Exn (ExecutionPlan × RttAttemptRecord)) :
    Code ExecutionPlan := do
  let checked ← checks
  let attempt ← Code.requireAttempt checked.1
  ready attempt
  let plan ← Code.requirePlan attempt.planId
  let updated ← make checked.2 plan attempt
  Code.commitTransition plan.version updated.1 updated.2
  return updated.1

/-- The operation finds what it needs in the store, and commits `updated`. -/
structure Concludable {γ : Type} (checks : Except Exn (String × γ))
    (ready : RttAttemptRecord → Except Exn Unit)
    (make : γ → ExecutionPlan → RttAttemptRecord → Except Exn (ExecutionPlan × RttAttemptRecord))
    (st : ExecutionStore) (key : String) (checked : γ) (a : RttAttemptRecord) (p : ExecutionPlan)
    (updated : ExecutionPlan × RttAttemptRecord) : Prop where
  checks : checks = .ok (key, checked)
  attempt : st.attempts.get? key = some a
  ready : ready a = .ok ()
  plan : st.plans.get? a.planId = some p
  make : make checked p a = .ok updated
  current : p.currentRttId = some key

section Concluding

variable {γ : Type} {checks : Except Exn (String × γ)} {ready : RttAttemptRecord → Except Exn Unit}
  {make : γ → ExecutionPlan → RttAttemptRecord → Except Exn (ExecutionPlan × RttAttemptRecord)}
  {oracle : (o : Op) → o.Resp}

/-- The updated records belong to the plan and the attempt that were read. -/
def KeepsKeys
    (make : γ → ExecutionPlan → RttAttemptRecord → Except Exn (ExecutionPlan × RttAttemptRecord)) :
    Prop :=
  ∀ checked p a updated, make checked p a = .ok updated →
    updated.1.planId = p.planId ∧ updated.2.rttId = a.rttId

theorem commitTransition_of_current {st : ExecutionStore} {p p' : ExecutionPlan}
    {a a' : RttAttemptRecord} {key : String} (hp : st.plans.get? p'.planId = some p)
    (ha : st.attempts.get? key = some a) (hkey : a'.rttId = key) (hcurrent : p.currentRttId = some key) :
    st.commitTransition p.version p' a' = .ok ((), st.put p' a') := by
  unfold ExecutionStore.commitTransition
  rw [hp, hkey, ha]
  simp [hcurrent]

theorem run_requireAttempt (key : String) :
    (Code.requireAttempt key).run (fun o w => w.answer d.rt oracle o) w =
      (w.executions.requireAttempt key, w) := rfl

theorem run_requirePlan (planId : String) :
    (Code.requirePlan planId).run (fun o w => w.answer d.rt oracle o) w =
      (w.executions.requirePlan planId, w) := rfl

theorem run_commitTransition (v : ℕ) (p : ExecutionPlan) (a : RttAttemptRecord) :
    (Code.commitTransition v p a).run (fun o w => w.answer d.rt oracle o) w =
      w.commit (w.executions.commitTransition v p a) fun st => { w with executions := st } := rfl

/-- What is committed when everything is found. -/
theorem run_concluding_of (hs : w.executions.Consistent) (hmake : KeepsKeys make) {key : String}
    {checked : γ} {a : RttAttemptRecord} {p : ExecutionPlan}
    {updated : ExecutionPlan × RttAttemptRecord}
    (h : Concludable checks ready make w.executions key checked a p updated) :
    (concluding checks ready make).run (fun o w => w.answer d.rt oracle o) w =
      (.ok updated.1, { w with executions := w.executions.put updated.1 updated.2 }) := by
  obtain ⟨hplanId, hrttId⟩ := hmake _ _ _ _ h.make
  have hattempt : w.executions.requireAttempt key = .ok a :=
    ExecutionStore.requireAttempt_eq_ok.mpr h.attempt
  have hplan : w.executions.requirePlan a.planId = .ok p :=
    ExecutionStore.requirePlan_eq_ok.mpr h.plan
  have hstored : w.executions.plans.get? updated.1.planId = some p := by
    rw [hplanId, hs.planKey h.plan]
    exact h.plan
  have hcommit : w.executions.commitTransition p.version updated.1 updated.2 =
      .ok ((), w.executions.put updated.1 updated.2) :=
    commitTransition_of_current hstored h.attempt (hrttId.trans (hs.attemptKey h.attempt).1) h.current
  unfold concluding
  simp only [h.checks, Prog.liftM_eq, Prog.ret_ok_bind, Prog.run_bind, run_requireAttempt, hattempt,
    h.ready, run_requirePlan, hplan, h.make, run_commitTransition, hcommit, World.commit, Prog.pure_eq,
    Prog.run]

/-- The operation raises and writes nothing when something is missing. -/
theorem run_concluding_of_not (hs : w.executions.Consistent) (hmake : KeepsKeys make)
    (h : ∀ key checked a p updated,
      ¬ Concludable checks ready make w.executions key checked a p updated) :
    ∃ e, (concluding checks ready make).run (fun o w => w.answer d.rt oracle o) w = (.error e, w) := by
  unfold concluding
  simp only [Prog.liftM_eq, Prog.run_bind, run_requireAttempt, run_requirePlan, run_commitTransition,
    Prog.run]
  cases hchecks : checks with
  | error e => exact ⟨e, rfl⟩
  | ok checked =>
    dsimp only
    cases hattempt : w.executions.requireAttempt checked.1 with
    | error e => exact ⟨e, rfl⟩
    | ok a =>
      dsimp only
      cases hready : ready a with
      | error e => exact ⟨e, rfl⟩
      | ok u =>
        dsimp only
        cases hplan : w.executions.requirePlan a.planId with
        | error e => exact ⟨e, rfl⟩
        | ok p =>
          dsimp only
          cases hupdated : make checked.2 p a with
          | error e => exact ⟨e, rfl⟩
          | ok updated =>
            dsimp only
            cases hcommit : w.executions.commitTransition p.version updated.1 updated.2 with
            | error e => exact ⟨e, rfl⟩
            | ok res =>
              exfalso
              have ha := ExecutionStore.requireAttempt_eq_ok.mp hattempt
              have hp := ExecutionStore.requirePlan_eq_ok.mp hplan
              obtain ⟨hplanId, hrttId⟩ := hmake _ _ _ _ hupdated
              obtain ⟨-, ⟨q, hq, -, hcurrent⟩, -⟩ := ExecutionStore.commitTransition_eq_ok hcommit
              rw [hplanId, hs.planKey hp, hp, Option.some.injEq] at hq
              rw [← hq, hrttId, (hs.attemptKey ha).1] at hcurrent
              exact h checked.1 checked.2 a p updated
                ⟨hchecks, ha, hready, hp, hupdated, hcurrent⟩

end Concluding

/-! ## Stores after two calls -/

/-- The stores are the same; the histories may differ. -/
structure SameStores (w w' : World) : Prop where
  contracts : w.contracts = w'.contracts
  executions : w.executions = w'.executions
  operations : w.operations = w'.operations
  inbox : w.inbox = w'.inbox
  settlements : w.settlements = w'.settlements
  projections : w.projections = w'.projections

/-- The two calls, each executed by itself in the world `w`, leave the same stores. -/
def Agree {α : Type} (d : Deployment) (oracle : (o : Op) → o.Resp) (p q : Code α) (w : World) : Prop :=
  SameStores (p.run (fun o w => w.answer d.rt oracle o) w).2 (q.run (fun o w => w.answer d.rt oracle o) w).2

/-- The attempt that `s` names has no outcome yet. -/
def AwaitsOutcome (st : ExecutionStore) (s : String) : Prop :=
  strip s ≠ "" ∧ ∃ a, st.attempts.get? (strip s) = some a ∧ a.state = .created

/-- The attempt that `s` names awaits reconciliation, its plan points to the trimmed identifier, and
the arguments of a resolution are in order. -/
structure Resolvable (st : ExecutionStore) (s : String) (succeeded : Bool) (cost : Int)
    (failureCode : Option String) (disposition : FailureDisposition) (at_ : Datetime) : Prop where
  instant : ∃ instant, at_ = .aware instant
  cost : 0 ≤ cost
  named : strip s ≠ ""
  attempt : ∃ a p, st.attempts.get? (strip s) = some a ∧ a.state = .reconciliationRequired ∧
    st.plans.get? a.planId = some p ∧ p.status = .reconciliationRequired ∧
    p.currentRttId = some (strip s)
  outcome : succeeded = false → (∀ code ∈ failureCode, code = "" ∨ strip code ≠ "") ∧
    disposition ≠ .reconciliationRequired

section Agreement

variable {oracle : (o : Op) → o.Resp} {s : String} {cost : Int} {at_ : Datetime}

/-- Writing different plans leaves different stores. -/
theorem plan_of_sameStores {p p' : ExecutionPlan} {a a' : RttAttemptRecord}
    (hid : p.planId = p'.planId)
    (h : SameStores { w with executions := w.executions.put p a }
      { w with executions := w.executions.put p' a' }) : p = p' := by
  have hget := congrArg (fun st => st.plans.get? p.planId) h.executions
  simp only [ExecutionStore.plans_put] at hget
  rw [Dict.get?_set_self, hid, Dict.get?_set_self] at hget
  exact Option.some.inj hget

theorem Agree.refl {α : Type} (p : Code α) : Agree d oracle p p w := ⟨rfl, rfl, rfl, rfl, rfl, rfl⟩

section Scheme

variable {γ : Type} {checks checks' : Except Exn (String × γ)}
  {ready ready' : RttAttemptRecord → Except Exn Unit}
  {make make' : γ → ExecutionPlan → RttAttemptRecord → Except Exn (ExecutionPlan × RttAttemptRecord)}

/-- Two calls that commit different plans of one identifier leave different stores. -/
theorem not_agree_of_concludable (hs : w.executions.Consistent) (hmake : KeepsKeys make)
    (hmake' : KeepsKeys make') {key key' : String} {checked checked' : γ} {a a' : RttAttemptRecord}
    {p : ExecutionPlan} {updated updated' : ExecutionPlan × RttAttemptRecord}
    (h : Concludable checks ready make w.executions key checked a p updated)
    (h' : Concludable checks' ready' make' w.executions key' checked' a' p updated')
    (hne : updated.1 ≠ updated'.1) :
    ¬ Agree d oracle (concluding checks ready make) (concluding checks' ready' make') w := by
  intro hagree
  rw [Agree, run_concluding_of hs hmake h, run_concluding_of hs hmake' h'] at hagree
  have hid : updated.1.planId = updated'.1.planId :=
    (hmake _ _ _ _ h.make).1.trans (hmake' _ _ _ _ h'.make).1.symm
  exact hne (plan_of_sameStores hid hagree)

/-- Two calls that commit nothing leave the stores as they were. -/
theorem agree_of_not_concludable (hs : w.executions.Consistent) (hmake : KeepsKeys make)
    (hmake' : KeepsKeys make')
    (h : ¬ ∃ key checked a p updated,
      Concludable checks ready make w.executions key checked a p updated)
    (h' : ¬ ∃ key checked a p updated,
      Concludable checks' ready' make' w.executions key checked a p updated) :
    Agree d oracle (concluding checks ready make) (concluding checks' ready' make') w := by
  obtain ⟨_, hrun⟩ : ∃ e, (concluding checks ready make).run
      (fun o w => w.answer d.rt oracle o) w = (.error e, w) :=
    run_concluding_of_not hs hmake fun key checked a p updated hc => h ⟨key, checked, a, p, updated, hc⟩
  obtain ⟨_, hrun'⟩ : ∃ e, (concluding checks' ready' make').run
      (fun o w => w.answer d.rt oracle o) w = (.error e, w) :=
    run_concluding_of_not hs hmake' fun key checked a p updated hc =>
      h' ⟨key, checked, a, p, updated, hc⟩
  rw [Agree, hrun, hrun']
  exact ⟨rfl, rfl, rfl, rfl, rfl, rfl⟩

end Scheme

/-! ### Reports -/

/-- A report is for an attempt without outcome. -/
def isCreated (a : RttAttemptRecord) : Except Exn Unit :=
  require (a.state = .created) ⟨.planNotExecutable, "RTT has already reached an operational outcome"⟩

/-- A report through `s` and through the trimmed identifier leave the same stores if and only if `s`
is trimmed or the report is refused: the plan names its last attempt as the caller did. -/
theorem report_agrees_iff {γ : Type} {Args : γ → Prop} {checks : String → Except Exn (String × γ)}
    (hchecks : ∀ s key checked, checks s = .ok (key, checked) ↔
      key = strip s ∧ strip s ≠ "" ∧ Args checked)
    {make : String → γ → ExecutionPlan → RttAttemptRecord → ExecutionPlan × RttAttemptRecord}
    (hmake : ∀ s checked p a, (make s checked p a).1.planId = p.planId ∧
      (make s checked p a).1.previousRttId = some s ∧ (make s checked p a).2.rttId = a.rttId)
    (hs : w.executions.Consistent) (hpoints : w.executions.PointsToCreated) :
    Agree d oracle (concluding (checks s) isCreated fun checked p a => .ok (make s checked p a))
        (concluding (checks (strip s)) isCreated fun checked p a => .ok (make (strip s) checked p a)) w ↔
      strip s = s ∨ ¬ (AwaitsOutcome w.executions s ∧ ∃ checked, Args checked) := by
  have hkeeps : ∀ s, KeepsKeys fun checked p a => .ok (make s checked p a) := by
    intro s checked p a updated h
    cases h
    exact ⟨(hmake s checked p a).1, (hmake s checked p a).2.2⟩
  have hcommits : ∀ s', strip s' = strip s →
      ((∃ key checked a p updated, Concludable (checks s') isCreated
        (fun checked p a => .ok (make s' checked p a)) w.executions key checked a p updated) ↔
        AwaitsOutcome w.executions s ∧ ∃ checked, Args checked) := by
    intro s' hs'
    constructor
    · rintro ⟨key, checked, a, p, updated, h⟩
      obtain ⟨rfl, hkey, hargs⟩ := (hchecks s' key checked).mp h.checks
      rw [hs'] at hkey
      exact ⟨⟨hkey, a, hs' ▸ h.attempt, require_eq_ok.mp h.ready⟩, checked, hargs⟩
    · rintro ⟨⟨hkey, a, ha, hcreated⟩, checked, hargs⟩
      obtain ⟨p, hp, hcurrent⟩ := hpoints _ a ha hcreated
      rw [← hs'] at hkey
      exact ⟨strip s, checked, a, p, _, (hchecks _ _ _).mpr ⟨hs'.symm, hkey, hargs⟩, ha,
        require_eq_ok.mpr hcreated, hp, rfl, hcurrent⟩
  constructor
  · intro hagree
    by_contra hnot
    rw [not_or, not_not] at hnot
    obtain ⟨hpadded, ⟨hkey, a, ha, hcreated⟩, checked, hargs⟩ := hnot
    obtain ⟨p, hp, hcurrent⟩ := hpoints _ a ha hcreated
    have hraw : Concludable (checks s) isCreated (fun checked p a => .ok (make s checked p a))
        w.executions (strip s) checked a p (make s checked p a) :=
      ⟨(hchecks _ _ _).mpr ⟨rfl, hkey, hargs⟩, ha, require_eq_ok.mpr hcreated, hp, rfl, hcurrent⟩
    have htrimmed : Concludable (checks (strip s)) isCreated
        (fun checked p a => .ok (make (strip s) checked p a)) w.executions (strip s) checked a p
        (make (strip s) checked p a) :=
      ⟨(hchecks _ _ _).mpr ⟨(strip_strip s).symm, (strip_strip s).symm ▸ hkey, hargs⟩, ha,
        require_eq_ok.mpr hcreated, hp, rfl, hcurrent⟩
    refine not_agree_of_concludable hs (hkeeps s) (hkeeps (strip s)) hraw htrimmed (fun heq => ?_)
      hagree
    have hprevious := congrArg ExecutionPlan.previousRttId heq
    rw [(hmake s checked p a).2.1, (hmake (strip s) checked p a).2.1] at hprevious
    exact hpadded (Option.some.inj hprevious).symm
  · rintro (htrimmed | hrefused)
    · rw [htrimmed]
      exact Agree.refl _
    · refine agree_of_not_concludable hs (hkeeps s) (hkeeps (strip s)) ?_ ?_
      · rw [hcommits s rfl]
        exact hrefused
      · rw [hcommits (strip s) (strip_strip s)]
        exact hrefused

theorem requireAware_eq_ok {name : String} {instant : Instant} :
    requireAware name at_ = .ok instant ↔ at_ = .aware instant := by
  cases at_ <;> simp [requireAware]

/-- The checks of `record_failure`. -/
def failureChecks (failureCode : String) (cost : Int) (at_ : Datetime) (s : String) :
    Except Exn (String × Instant × Int × String) := do
  let instant ← requireAware "failure timestamp" at_
  let cost ← requireMinorUnits "actual_cost_minor" cost true
  let code ← requireText "failure_code" failureCode
  let key ← requireText "rtt_id" s
  return (key, instant, cost, code)

/-- What `record_failure` writes. -/
def failureRecords (d : Deployment) (disposition : FailureDisposition) (s : String)
    (checked : Instant × Int × String) (p : ExecutionPlan) (a : RttAttemptRecord) :
    ExecutionPlan × RttAttemptRecord :=
  (p.afterFailure s a.routeId (d.rt.upper checked.2.2) disposition checked.2.1 checked.1,
    a.afterFailure (d.rt.upper checked.2.2) disposition checked.2.1 checked.1)

theorem recordFailure_eq {failureCode : String} {disposition : FailureDisposition} :
    RttAttemptService.recordFailure d s failureCode disposition cost at_ =
      concluding (failureChecks failureCode cost at_ s) isCreated fun checked p a =>
        .ok (failureRecords d disposition s checked p a) := by
  unfold RttAttemptService.recordFailure concluding failureChecks
  cases requireAware "failure timestamp" at_ with
  | error e => rfl
  | ok instant =>
    cases requireMinorUnits "actual_cost_minor" cost true with
    | error e => rfl
    | ok cost =>
      cases requireText "failure_code" failureCode with
      | error e => rfl
      | ok code =>
        cases requireText "rtt_id" s with
        | error e => rfl
        | ok key => rfl

theorem recordFailure_agrees_iff (hs : w.executions.Consistent)
    (hpoints : w.executions.PointsToCreated) {failureCode : String}
    {disposition : FailureDisposition} :
    Agree d oracle (RttAttemptService.recordFailure d s failureCode disposition cost at_)
        (RttAttemptService.recordFailure d (strip s) failureCode disposition cost at_) w ↔
      strip s = s ∨ ¬ (AwaitsOutcome w.executions s ∧ 0 ≤ cost ∧ strip failureCode ≠ "" ∧
        ∃ instant, at_ = .aware instant) := by
  have hchecks : ∀ s key checked, failureChecks failureCode cost at_ s = .ok (key, checked) ↔
      key = strip s ∧ strip s ≠ "" ∧ 0 ≤ cost ∧ strip failureCode ≠ "" ∧
        ∃ instant, at_ = .aware instant ∧ checked = (instant, cost, strip failureCode) := by
    intro s key checked
    simp only [failureChecks, bind_eq_ok, requireAware_eq_ok, requireMinorUnits_eq_ok,
      requireText_eq_ok, pure_eq_ok, Prod.mk.injEq]
    constructor
    · rintro ⟨instant, rfl, _, ⟨rfl, hcost⟩, _, ⟨rfl, hcode⟩, _, ⟨rfl, hkey⟩, rfl, rfl⟩
      exact ⟨rfl, hkey, hcost, hcode, instant, rfl, rfl⟩
    · rintro ⟨rfl, hkey, hcost, hcode, instant, rfl, rfl⟩
      exact ⟨instant, rfl, _, ⟨rfl, hcost⟩, _, ⟨rfl, hcode⟩, _, ⟨rfl, hkey⟩, rfl, rfl⟩
  rw [recordFailure_eq, recordFailure_eq,
    report_agrees_iff hchecks (fun _ _ _ _ => ⟨rfl, rfl, rfl⟩) hs hpoints]
  simp

/-- The checks of `record_success`. -/
def successChecks (cost : Int) (at_ : Datetime) (s : String) :
    Except Exn (String × Instant × Int) := do
  let instant ← requireAware "success timestamp" at_
  let cost ← requireMinorUnits "actual_cost_minor" cost true
  let key ← requireText "rtt_id" s
  return (key, instant, cost)

/-- What `record_success` writes. -/
def successRecords (s : String) (checked : Instant × Int) (p : ExecutionPlan)
    (a : RttAttemptRecord) : ExecutionPlan × RttAttemptRecord :=
  (p.afterSuccess s a.routeId checked.2 checked.1, a.afterSuccess checked.2 checked.1)

theorem recordSuccess_eq :
    RttAttemptService.recordSuccess s cost at_ =
      concluding (successChecks cost at_ s) isCreated fun checked p a =>
        .ok (successRecords s checked p a) := by
  unfold RttAttemptService.recordSuccess concluding successChecks
  cases requireAware "success timestamp" at_ with
  | error e => rfl
  | ok instant =>
    cases requireMinorUnits "actual_cost_minor" cost true with
    | error e => rfl
    | ok cost =>
      cases requireText "rtt_id" s with
      | error e => rfl
      | ok key => rfl

theorem recordSuccess_agrees_iff (hs : w.executions.Consistent)
    (hpoints : w.executions.PointsToCreated) :
    Agree d oracle (RttAttemptService.recordSuccess s cost at_)
        (RttAttemptService.recordSuccess (strip s) cost at_) w ↔
      strip s = s ∨ ¬ (AwaitsOutcome w.executions s ∧ 0 ≤ cost ∧ ∃ instant, at_ = .aware instant) := by
  have hchecks : ∀ s key checked, successChecks cost at_ s = .ok (key, checked) ↔
      key = strip s ∧ strip s ≠ "" ∧ 0 ≤ cost ∧
        ∃ instant, at_ = .aware instant ∧ checked = (instant, cost) := by
    intro s key checked
    simp only [successChecks, bind_eq_ok, requireAware_eq_ok, requireMinorUnits_eq_ok,
      requireText_eq_ok, pure_eq_ok, Prod.mk.injEq]
    constructor
    · rintro ⟨instant, rfl, _, ⟨rfl, hcost⟩, _, ⟨rfl, hkey⟩, rfl, rfl⟩
      exact ⟨rfl, hkey, hcost, instant, rfl, rfl⟩
    · rintro ⟨rfl, hkey, hcost, instant, rfl, rfl⟩
      exact ⟨instant, rfl, _, ⟨rfl, hcost⟩, _, ⟨rfl, hkey⟩, rfl, rfl⟩
  rw [recordSuccess_eq, recordSuccess_eq,
    report_agrees_iff hchecks (fun _ _ _ _ => ⟨rfl, rfl, rfl⟩) hs hpoints]
  simp

/-! ### Resolutions -/

/-- The checks of `resolve_reconciliation`. -/
def resolutionChecks (cost : Int) (at_ : Datetime) (s : String) :
    Except Exn (String × Instant × Int) := do
  let instant ← requireAware "reconciliation timestamp" at_
  let cost ← requireMinorUnits "actual_cost_minor" cost true
  let key ← requireText "rtt_id" s
  return (key, instant, cost)

/-- A resolution is for a parked attempt. -/
def isParked (a : RttAttemptRecord) : Except Exn Unit :=
  require (a.state = .reconciliationRequired) ⟨.planNotExecutable, "RTT is not awaiting reconciliation"⟩

/-- What `resolve_reconciliation` writes, when the plan points to `s`. -/
def resolutionRecords (d : Deployment) (succeeded : Bool) (failureCode : Option String)
    (disposition : FailureDisposition) (s : String) (checked : Instant × Int) (p : ExecutionPlan)
    (a : RttAttemptRecord) : Except Exn (ExecutionPlan × RttAttemptRecord) := do
  require (p.status = .reconciliationRequired ∧ p.currentRttId = some s)
    ⟨.planNotExecutable, "execution plan is not awaiting this RTT"⟩
  RttAttemptService.resolution d p a s succeeded failureCode disposition checked.2 checked.1

variable {succeeded : Bool} {failureCode : Option String} {disposition : FailureDisposition}

theorem resolveReconciliation_eq :
    RttAttemptService.resolveReconciliation d s succeeded cost failureCode disposition at_ =
      concluding (resolutionChecks cost at_ s) isParked
        (resolutionRecords d succeeded failureCode disposition s) := by
  have hassoc : ∀ {α β : Type} (x : Except Exn Unit) (y : Except Exn α) (f : α → Code β),
      (Prog.ret (x >>= fun _ => y) >>= f : Code β) = Prog.ret x >>= fun _ => Prog.ret y >>= f := by
    intro α β x y f
    cases x <;> rfl
  unfold RttAttemptService.resolveReconciliation concluding resolutionChecks resolutionRecords
  simp only [Prog.liftM_eq, hassoc]
  cases requireAware "reconciliation timestamp" at_ with
  | error e => rfl
  | ok instant =>
    cases requireMinorUnits "actual_cost_minor" cost true with
    | error e => rfl
    | ok cost =>
      cases requireText "rtt_id" s with
      | error e => rfl
      | ok key => rfl

theorem resolutionChecks_eq_ok {key : String} {checked : Instant × Int} :
    resolutionChecks cost at_ s = .ok (key, checked) ↔ key = strip s ∧ strip s ≠ "" ∧ 0 ≤ cost ∧
      ∃ instant, at_ = .aware instant ∧ checked = (instant, cost) := by
  simp only [resolutionChecks, bind_eq_ok, requireAware_eq_ok, requireMinorUnits_eq_ok,
    requireText_eq_ok, pure_eq_ok, Prod.mk.injEq]
  constructor
  · rintro ⟨instant, rfl, _, ⟨rfl, hcost⟩, _, ⟨rfl, hkey⟩, rfl, rfl⟩
    exact ⟨rfl, hkey, hcost, instant, rfl, rfl⟩
  · rintro ⟨rfl, hkey, hcost, instant, rfl, rfl⟩
    exact ⟨instant, rfl, _, ⟨rfl, hcost⟩, _, ⟨rfl, hkey⟩, rfl, rfl⟩

theorem keepsKeys_resolutionRecords :
    KeepsKeys (resolutionRecords d succeeded failureCode disposition s) := by
  intro checked p a updated h
  simp only [resolutionRecords, bind_eq_ok, require_eq_ok] at h
  obtain ⟨-, -, h⟩ := h
  rcases RttAttemptService.resolution_eq_ok h with rfl | ⟨-, code, rfl⟩
  · exact ⟨rfl, rfl⟩
  · exact ⟨rfl, rfl⟩

theorem version_of_resolutionRecords {checked : Instant × Int} {p : ExecutionPlan}
    {a : RttAttemptRecord} {updated : ExecutionPlan × RttAttemptRecord}
    (h : resolutionRecords d succeeded failureCode disposition s checked p a = .ok updated) :
    updated.1.version = p.version + 1 := by
  simp only [resolutionRecords, bind_eq_ok, require_eq_ok] at h
  obtain ⟨-, -, h⟩ := h
  rcases RttAttemptService.resolution_eq_ok h with rfl | ⟨-, code, rfl⟩
  · rfl
  · rfl

/-- When a resolution computes new records. -/
theorem exists_resolution_iff {p : ExecutionPlan} {a : RttAttemptRecord} {instant : Instant} :
    (∃ updated, RttAttemptService.resolution d p a s succeeded failureCode disposition cost instant =
      .ok updated) ↔
      (succeeded = false → (∀ code ∈ failureCode, code = "" ∨ strip code ≠ "") ∧
        disposition ≠ .reconciliationRequired) := by
  have hdefault : strip "PROVIDER_CONFIRMED_FAILURE" ≠ "" := by decide
  unfold RttAttemptService.resolution
  cases succeeded with
  | true => exact iff_of_true ⟨_, rfl⟩ (by rintro ⟨⟩)
  | false =>
    simp only [Bool.false_eq_true, if_false, bind_eq_ok, requireText_eq_ok, require_eq_ok, pure_eq_ok,
      true_implies]
    cases failureCode with
    | none =>
      constructor
      · rintro ⟨_, _, -, _, hdisposition, -⟩
        exact ⟨by rintro _ ⟨⟩, hdisposition⟩
      · rintro ⟨-, hdisposition⟩
        exact ⟨_, _, ⟨rfl, hdefault⟩, (), hdisposition, rfl⟩
    | some code =>
      have hcode : strip (if code = "" then "PROVIDER_CONFIRMED_FAILURE" else code) ≠ "" ↔
          ∀ code' ∈ some code, code' = "" ∨ strip code' ≠ "" := by
        split_ifs with hempty
        · refine iff_of_true hdefault fun code' hcode' => .inl ?_
          rw [← Option.some.inj hcode']
          exact hempty
        · constructor
          · rintro hstrip code' hcode'
            cases hcode'
            exact .inr hstrip
          · exact fun h => (h code rfl).resolve_left hempty
      rw [← hcode]
      constructor
      · rintro ⟨_, _, ⟨-, hstrip⟩, _, hdisposition, -⟩
        exact ⟨hstrip, hdisposition⟩
      · rintro ⟨hstrip, hdisposition⟩
        exact ⟨_, _, ⟨rfl, hstrip⟩, (), hdisposition, rfl⟩

/-- A resolution through a padded identifier commits nothing, whatever the plan points to: where the
plan points to the padded identifier, the commit finds that this is not the attempt in flight. -/
theorem not_concludable_resolution {st : ExecutionStore} (hpadded : strip s ≠ s) :
    ¬ ∃ key checked a p updated, Concludable (resolutionChecks cost at_ s) isParked
      (resolutionRecords d succeeded failureCode disposition s) st key checked a p updated := by
  rintro ⟨key, checked, a, p, updated, h⟩
  obtain ⟨rfl, -⟩ := resolutionChecks_eq_ok.mp h.checks
  have hmake := h.make
  simp only [resolutionRecords, bind_eq_ok, require_eq_ok] at hmake
  obtain ⟨-, ⟨-, hcurrent⟩, -⟩ := hmake
  rw [h.current, Option.some.injEq] at hcurrent
  exact hpadded hcurrent

/-- When a resolution through a trimmed identifier commits. -/
theorem concludable_resolution_iff {st : ExecutionStore} :
    (∃ key checked a p updated, Concludable (resolutionChecks cost at_ (strip s)) isParked
      (resolutionRecords d succeeded failureCode disposition (strip s)) st key checked a p updated) ↔
      Resolvable st s succeeded cost failureCode disposition at_ := by
  constructor
  · rintro ⟨key, checked, a, p, updated, h⟩
    obtain ⟨hkey, hnamed, hcost, instant, hat, -⟩ := resolutionChecks_eq_ok.mp h.checks
    rw [strip_strip] at hkey hnamed
    subst hkey
    have hmake := h.make
    simp only [resolutionRecords, bind_eq_ok, require_eq_ok] at hmake
    obtain ⟨-, ⟨hstatus, hcurrent⟩, hresolution⟩ := hmake
    exact ⟨⟨instant, hat⟩, hcost, hnamed,
      ⟨a, p, h.attempt, require_eq_ok.mp h.ready, h.plan, hstatus, hcurrent⟩,
      exists_resolution_iff.mp ⟨updated, hresolution⟩⟩
  · rintro ⟨⟨instant, hat⟩, hcost, hnamed, ⟨a, p, ha, hparked, hp, hstatus, hcurrent⟩, houtcome⟩
    obtain ⟨updated, hupdated⟩ : ∃ updated, RttAttemptService.resolution d p a (strip s) succeeded
        failureCode disposition cost instant = .ok updated := exists_resolution_iff.mpr houtcome
    refine ⟨strip s, (instant, cost), a, p, updated, resolutionChecks_eq_ok.mpr ?_, ha,
      require_eq_ok.mpr hparked, hp, ?_, hcurrent⟩
    · rw [strip_strip]
      exact ⟨rfl, hnamed, hcost, instant, hat, rfl⟩
    · simp only [resolutionRecords, bind_eq_ok, require_eq_ok]
      exact ⟨(), ⟨hstatus, hcurrent⟩, hupdated⟩

theorem resolveReconciliation_agrees_iff (hs : w.executions.Consistent) :
    Agree d oracle
        (RttAttemptService.resolveReconciliation d s succeeded cost failureCode disposition at_)
        (RttAttemptService.resolveReconciliation d (strip s) succeeded cost failureCode disposition at_)
        w ↔
      strip s = s ∨ ¬ Resolvable w.executions s succeeded cost failureCode disposition at_ := by
  rw [resolveReconciliation_eq, resolveReconciliation_eq]
  constructor
  · intro hagree
    by_contra hnot
    rw [not_or, not_not] at hnot
    obtain ⟨hpadded, hresolvable⟩ := hnot
    obtain ⟨key, checked, a, p, updated, h⟩ := (concludable_resolution_iff (d := d)).mpr hresolvable
    obtain ⟨_, hraw⟩ : ∃ e, (concluding (resolutionChecks cost at_ s) isParked
        (resolutionRecords d succeeded failureCode disposition s)).run
          (fun o w => w.answer d.rt oracle o) w = (.error e, w) :=
      run_concluding_of_not hs keepsKeys_resolutionRecords fun key checked a p updated hc =>
        not_concludable_resolution hpadded ⟨key, checked, a, p, updated, hc⟩
    rw [Agree, hraw, run_concluding_of hs keepsKeys_resolutionRecords h] at hagree
    -- the trimmed call has written a new version of the plan
    have hplans := congrArg (fun st => st.plans.get? p.planId) hagree.executions
    have hid := (keepsKeys_resolutionRecords _ _ _ _ h.make).1
    simp only [ExecutionStore.plans_put, hid, Dict.get?_set_self] at hplans
    rw [hs.planKey h.plan, h.plan, Option.some.injEq] at hplans
    have hversion := version_of_resolutionRecords h.make
    rw [← hplans] at hversion
    omega
  · rintro (htrimmed | hrefused)
    · rw [htrimmed]
      exact Agree.refl _
    · by_cases htrimmed : strip s = s
      · rw [htrimmed]
        exact Agree.refl _
      · refine agree_of_not_concludable hs keepsKeys_resolutionRecords keepsKeys_resolutionRecords
          (not_concludable_resolution htrimmed) ?_
        rw [concludable_resolution_iff]
        exact hrefused

/-- A plan that awaits reconciliation can be resolved if and only if its pointer is trimmed. -/
theorem exists_resolution_of_plan_iff (hs : w.executions.Consistent) (hnamed : w.executions.Named)
    {id : String} {p : ExecutionPlan} (hp : w.executions.plans.get? id = some p)
    (hstatus : p.status = .reconciliationRequired) :
    (∃ s succeeded cost failureCode disposition at_ q,
      ((RttAttemptService.resolveReconciliation d s succeeded cost failureCode disposition at_).run
        (fun o w => w.answer d.rt oracle o) w).1 = .ok q ∧ q.planId = id) ↔
      ∃ c, p.currentRttId = some c ∧ strip c = c := by
  constructor
  · rintro ⟨s, succeeded, cost, failureCode, disposition, at_, q, hrun, hid⟩
    rw [resolveReconciliation_eq] at hrun
    by_cases hconcludable : ∃ key checked a p updated, Concludable (resolutionChecks cost at_ s)
        isParked (resolutionRecords d succeeded failureCode disposition s) w.executions key checked a p
        updated
    · obtain ⟨key, checked, a, p', updated, h⟩ := hconcludable
      obtain ⟨rfl, -⟩ := resolutionChecks_eq_ok.mp h.checks
      rw [run_concluding_of hs keepsKeys_resolutionRecords h] at hrun
      have hq : updated.1 = q := Except.ok.inj hrun
      have hplan : a.planId = id := by
        rw [← hid, ← hq, (keepsKeys_resolutionRecords _ _ _ _ h.make).1, hs.planKey h.plan]
      have hsame := h.plan
      rw [hplan, hp, Option.some.injEq] at hsame
      subst hsame
      exact ⟨strip s, h.current, strip_strip s⟩
    · obtain ⟨e, herror⟩ := run_concluding_of_not (d := d) (w := w) hs
        keepsKeys_resolutionRecords fun key checked a p updated hc =>
          hconcludable ⟨key, checked, a, p, updated, hc⟩
      rw [herror] at hrun
      cases hrun
  · rintro ⟨c, hcurrent, htrimmed⟩
    -- the attempt in flight is parked, and its identifier is the pointer
    obtain ⟨a, ha, hparked⟩ := (hs.agrees hp).awaiting.mp hstatus
    obtain ⟨c', hc', hid⟩ := ((hs.agrees hp).inFlight a ha).mp (by rw [hparked]; rfl)
    obtain ⟨⟨r, hr⟩, hplan⟩ := ExecutionStore.mem_attemptsOf.mp ha
    rw [hcurrent, Option.some.injEq] at hc'
    have hkey : r = c := by rw [← (hs.attemptKey hr).1, ← hid, ← hc', htrimmed]
    subst hkey
    have hresolvable : Resolvable w.executions r true 0 none .terminal (.aware 0) := by
      refine ⟨⟨0, rfl⟩, le_rfl, ?_, ⟨a, p, ?_, hparked, hplan.symm ▸ hp, hstatus, ?_⟩, nofun⟩
      · rw [htrimmed]
        exact hnamed r a hr
      · rw [htrimmed]
        exact hr
      · rw [htrimmed]
        exact hcurrent
    obtain ⟨key, checked, a', p', updated, h⟩ := (concludable_resolution_iff (d := d)).mpr hresolvable
    have hrun : (RttAttemptService.resolveReconciliation d (strip r) true 0 none .terminal
        (.aware 0)).run (fun o w => w.answer d.rt oracle o) w =
          (.ok updated.1, { w with executions := w.executions.put updated.1 updated.2 }) := by
      rw [resolveReconciliation_eq]
      exact run_concluding_of hs keepsKeys_resolutionRecords h
    refine ⟨strip r, true, 0, none, .terminal, .aware 0, updated.1, congrArg Prod.fst hrun, ?_⟩
    have hkey := (resolutionChecks_eq_ok.mp h.checks).1
    rw [strip_strip, htrimmed] at hkey
    have ha' := h.attempt
    rw [hkey, hr, Option.some.injEq] at ha'
    rw [(keepsKeys_resolutionRecords _ _ _ _ h.make).1, hs.planKey h.plan, ← ha', hplan]

/-! ### Starts -/

/-- What `start_next` finds when it starts an attempt for the UTT. -/
structure Startable (d : Deployment) (oracle : (o : Op) → o.Resp) (w : World) (uttId : String)
    (at_ : Datetime) (instant : Instant) (signedUtt : SignatureEnvelope) (check : VerificationResult)
    (plan : ExecutionPlan) (selected : RankedRoute) (rttId : String) (uttHash : Json)
    (payload : Fields) (signedRtt : SignatureEnvelope) : Prop where
  aware : at_ = .aware instant
  named : uttId ≠ ""
  stored : w.contracts.utts.get? uttId = some signedUtt
  verified : SignatureService.verifyArtifact d.rt w.keys signedUtt (some .utt) false = .ok check
  valid : check.valid = true
  version : signedUtt.payload.get "endpoint_model_version" = some (.int 1) ∨
    signedUtt.payload.get "endpoint_model_version" = some (.bool true)
  endpoints : ((RttAttemptService.validateEndpoints d signedUtt.payload).run
    (fun o w => w.answer d.rt oracle o) w).1 = .ok ()
  planned : w.executions.requirePlanForUtt uttId = .ok plan
  route : RttAttemptService.selectRoute plan = .ok selected
  identifier : RttAttemptService.nextRttId d uttId plan selected.candidate.routeId instant = .ok rttId
  hash : signedUtt.header.item "payload_sha256" = .ok uttHash
  content : RttAttemptService.rttPayload d rttId uttId uttHash plan selected instant = .ok payload
  signed : SignatureService.signArtifact d.rt w.keys .rtt payload d.rttSigningKeyId instant =
    .ok signedRtt
  fresh : w.executions.attempts.get? rttId = none

theorem answer_of_nothing {o : Op} (ho : o.part = .nothing) : (w.answer d.rt oracle o).2 = w := by
  cases o <;> first | rfl | cases ho

theorem run_of_nothing {α : Type} {p : Code α} (hp : p.Ops fun o => o.part = .nothing) :
    (p.run (fun o w => w.answer d.rt oracle o) w).2 = w := by
  induction p with
  | ret r => rfl
  | op o k ih =>
    obtain ⟨ho, hk⟩ := Prog.ops_op.mp hp
    rw [Prog.run, answer_of_nothing ho]
    exact ih _ (hk _)

theorem commitStart_of_startable {u rttId : String} {plan : ExecutionPlan} {selected : RankedRoute}
    {instant : Instant} {signedRtt : SignatureEnvelope} (hs : w.executions.Consistent)
    (hplan : w.executions.requirePlanForUtt u = .ok plan)
    (hroute : RttAttemptService.selectRoute plan = .ok selected)
    (hfresh : w.executions.attempts.get? rttId = none) :
    plan.uttId = u ∧ w.executions.plans.get? plan.planId = some plan ∧
      w.executions.commitStart plan.version (plan.afterStart rttId selected.candidate.routeId instant)
        (RttAttemptService.newAttempt rttId u plan selected.candidate.routeId signedRtt instant) =
        .ok ((), w.executions.put (plan.afterStart rttId selected.candidate.routeId instant)
          (RttAttemptService.newAttempt rttId u plan selected.candidate.routeId signedRtt instant)) := by
  obtain ⟨planId, hid, hget⟩ := ExecutionStore.requirePlanForUtt_eq_ok.mp hplan
  obtain ⟨p, hp, hutt⟩ := hs.planOfUtt.mp hid
  rw [hget, Option.some.injEq] at hp
  subst hp
  have hstored : w.executions.plans.get? plan.planId = some plan := by
    rw [hs.planKey hget]
    exact hget
  have hidle := (RttAttemptService.selectRoute_eq_ok hroute).2.1
  refine ⟨hutt, hstored, ?_⟩
  unfold ExecutionStore.commitStart
  simp [ExecutionPlan.afterStart, RttAttemptService.newAttempt, hstored, hidle, hfresh, hutt]

theorem run_sign_iff {artifactType : ArtifactType} {payload : Fields} {keyId : String}
    {instant : Instant} {e : SignatureEnvelope} {w' : World} :
    (Code.sign artifactType payload keyId instant).run (fun o w => w.answer d.rt oracle o) w =
        (.ok e, w') ↔
      SignatureService.signArtifact d.rt w.keys artifactType payload keyId instant = .ok e ∧
        w' = { w with signed := w.signed ++ [e] } := by
  change World.commit w ((SignatureService.signArtifact d.rt w.keys artifactType payload keyId
    instant).map fun e => (e, e)) (fun e => { w with signed := w.signed ++ [e] }) = _ ↔ _
  cases SignatureService.signArtifact d.rt w.keys artifactType payload keyId instant with
  | error e => simp [Except.map, World.commit]
  | ok signed =>
    simp only [Except.map, World.commit, Prod.mk.injEq, Except.ok.injEq]
    constructor
    · rintro ⟨rfl, rfl⟩
      exact ⟨rfl, rfl⟩
    · rintro ⟨rfl, rfl⟩
      exact ⟨rfl, rfl⟩

theorem fresh_of_commitStart {v : ℕ} {p : ExecutionPlan} {a : RttAttemptRecord} {w' : World}
    (h : w.answer d.rt oracle (.commitStart v p a) = (.ok (), w')) :
    w.executions.attempts.get? a.rttId = none := by
  change World.commit w (w.executions.commitStart v p a) _ = _ at h
  cases hcommit : w.executions.commitStart v p a with
  | error e =>
    rw [hcommit] at h
    cases h
  | ok res => exact ((ExecutionStore.commitStart_eq_ok (u := res.1) hcommit)).2.2.2.1

/-- A start through a trimmed identifier returns if and only if it finds what it needs. -/
theorem run_startNext_iff (hs : w.executions.Consistent) {u : String} (hu : strip u = u) :
    (∃ a w', (RttAttemptService.startNext d u at_).run (fun o w => w.answer d.rt oracle o) w =
      (.ok a, w')) ↔
      ∃ instant signedUtt check plan selected rttId uttHash payload signedRtt,
        Startable d oracle w u at_ instant signedUtt check plan selected rttId uttHash payload
          signedRtt := by
  have hread : ∀ {w w' : World} {α : Type} {x : Except Exn α} {a : α},
      (x, w) = (.ok a, w') ↔ x = .ok a ∧ w' = w := by
    intro w w' α x a
    rw [Prod.mk.injEq, eq_comm (a := w)]
  have hutt : ∀ {w w' : World} {key : String} {e : SignatureEnvelope},
      (Code.requireUtt key).Runs (fun o s r s' => s.answer d.rt oracle o = (r, s')) w (.ok e) w' ↔
        w.contracts.utts.get? key = some e ∧ w' = w := by
    intro w w' key e
    rw [← ContractStore.requireUtt_eq_ok]
    exact Prog.runs_call.trans hread
  simp only [← Prog.runs_answer_iff]
  unfold RttAttemptService.startNext Code.requireValid Code.commitStart
  simp only [Prog.runs_bind_ok, Prog.runs_lift_ok, hutt]
  constructor
  · rintro ⟨a, w', instant, _, ⟨hat, rfl⟩, key, _, ⟨hkey, rfl⟩, signedUtt, _, ⟨hsigned, rfl⟩, h⟩
    obtain ⟨_, _, ⟨check, _, hverified, hvalid, rfl⟩, _, w₁, ⟨hversion, rfl⟩, _, w₃, hendpoints, h⟩ := h
    obtain ⟨plan, _, hplan, selected, _, ⟨hroute, rfl⟩, rttId, _, ⟨hrtt, rfl⟩, h⟩ := h
    obtain ⟨uttHash, _, ⟨hhash, rfl⟩, payload, _, ⟨hpayload, rfl⟩, signedRtt, w₅, hsign, h⟩ := h
    obtain ⟨_, _, ⟨_, _, ⟨_, rfl⟩, hcommit⟩, -⟩ := h
    have hat := requireAware_eq_ok.mp hat
    obtain ⟨rfl, hnamed⟩ := requireText_eq_ok.mp hkey
    rw [hu] at hsigned hnamed
    obtain ⟨hverified, rfl⟩ := hread.mp (Prog.runs_call.mp hverified)
    have hrun := Prog.runs_answer_iff.mp hendpoints
    have hquiet : ((RttAttemptService.validateEndpoints d signedUtt.payload).run
        (fun o w => w.answer d.rt oracle o) w₁).2 = w₁ :=
      run_of_nothing RttAttemptService.ops_validateEndpoints
    rw [hrun] at hquiet
    obtain rfl : w₃ = w₁ := hquiet
    obtain ⟨hplan, rfl⟩ := hread.mp (Prog.runs_call.mp hplan)
    obtain ⟨hsigned', rfl⟩ := run_sign_iff.mp (Prog.runs_answer_iff.mp hsign)
    -- the commit has found the identifier of the attempt free
    have hcommitted := Prog.runs_call.mp hcommit
    have hfresh := fresh_of_commitStart hcommitted
    exact ⟨instant, signedUtt, check, plan, selected, rttId, uttHash, payload, signedRtt, hat, hnamed,
      hsigned, hverified, require_eq_ok.mp hvalid, require_eq_ok.mp hversion, congrArg Prod.fst hrun,
      hplan, hroute, hrtt, hhash, hpayload, hsigned', hfresh⟩
  · rintro ⟨instant, signedUtt, check, plan, selected, rttId, uttHash, payload, signedRtt, h⟩
    obtain ⟨hplanUtt, -, hcommit⟩ := @commitStart_of_startable w u rttId plan selected instant signedRtt
      hs h.planned h.route h.fresh
    obtain ⟨e, he⟩ : ∃ e, w.contracts.utts.get? plan.uttId = some e := ⟨signedUtt, hplanUtt ▸ h.stored⟩
    have hrun : ((RttAttemptService.validateEndpoints d signedUtt.payload).run
        (fun o w => w.answer d.rt oracle o) w).2 = w :=
      run_of_nothing RttAttemptService.ops_validateEndpoints
    let a := RttAttemptService.newAttempt rttId u plan selected.candidate.routeId signedRtt instant
    let started : World :=
      { w with
        signed := w.signed ++ [signedRtt]
        executions := w.executions.put (plan.afterStart rttId selected.candidate.routeId instant) a }
    refine ⟨a, started, instant, w, ⟨requireAware_eq_ok.mpr h.aware, rfl⟩, u, w,
      ⟨requireText_eq_ok.mpr ⟨hu.symm, hu.symm ▸ h.named⟩, rfl⟩, signedUtt, w, ⟨h.stored, rfl⟩, (), w,
      ⟨check, w, Prog.runs_call.mpr (hread.mpr ⟨h.verified, rfl⟩), require_eq_ok.mpr h.valid, rfl⟩,
      (), w, ⟨require_eq_ok.mpr h.version, rfl⟩, (), w,
      Prog.runs_answer_iff.mpr (Prod.ext h.endpoints hrun), plan, w,
      Prog.runs_call.mpr (hread.mpr ⟨h.planned, rfl⟩), selected, w, ⟨h.route, rfl⟩, rttId, w,
      ⟨h.identifier, rfl⟩, uttHash, w, ⟨h.hash, rfl⟩, payload, w, ⟨h.content, rfl⟩, signedRtt, _,
      Prog.runs_answer_iff.mpr (run_sign_iff.mpr ⟨h.signed, rfl⟩), (), _, ⟨e, _, ⟨he, rfl⟩, ?_⟩, rfl, rfl⟩
    refine Prog.runs_call.mpr ?_
    change World.commit _ (w.executions.commitStart _ _ _) _ = _
    rw [hcommit]
    rfl

/-- What is executed is a run of the platform's semantics. -/
theorem runs_of_run {α : Type} {p : Code α} {w' : World} {r : Except Exn α}
    (h : p.run (fun o w => w.answer d.rt oracle o) w = (r, w')) :
    p.Runs (World.sem d.rt) w r w' := by
  have hruns : p.Runs (World.sem d.rt) w (p.run (fun o w => w.answer d.rt oracle o) w).1
      (p.run (fun o w => w.answer d.rt oracle o) w).2 :=
    Prog.runs_run (fun o w => w.sem_answer d.rt oracle o) p w
  rw [h] at hruns
  exact hruns

/-- A program that writes at most the execution store leaves the other stores as they were. -/
theorem sameStores_of_run {α : Type} {p : Code α} {w' : World} {r : Except Exn α}
    (hp : p.Ops fun o => o.part = .nothing ∨ o.part = .signed ∨ o.part = .executions)
    (h : p.run (fun o w => w.answer d.rt oracle o) w = (r, w'))
    (hexecutions : w.executions = w'.executions) : SameStores w w' := by
  have hruns := runs_of_run h
  have hpart : ∀ {τ : Type} {part : World → τ} {q : Part}, q ≠ .nothing → q ≠ .signed →
      q ≠ .executions → (∀ (o : Op) (s : World) (r : o.Resp) (s' : World), o.part ≠ q →
        World.sem d.rt o s r s' → part s' = part s) → part w = part w' := by
    intro τ part q hn hs he hframe
    refine (hruns.part_eq hframe (hp.mono fun o ho => ?_)).symm
    rcases ho with ho | ho | ho <;> rw [ho] <;> exact Ne.symm ‹_›
  refine ⟨hpart (q := .contracts) nofun nofun nofun ?_, hexecutions,
    hpart (q := .operations) nofun nofun nofun ?_, hpart (q := .inbox) nofun nofun nofun ?_,
    hpart (q := .settlements) nofun nofun nofun ?_, hpart (q := .projections) nofun nofun nofun ?_⟩
  · exact fun o s r s' ho hsem => (World.frame_of_sem hsem).contracts ho
  · exact fun o s r s' ho hsem => (World.frame_of_sem hsem).operations ho
  · exact fun o s r s' ho hsem => (World.frame_of_sem hsem).inbox ho
  · exact fun o s r s' ho hsem => (World.frame_of_sem hsem).settlements ho
  · exact fun o s r s' ho hsem => (World.frame_of_sem hsem).projections ho

theorem SameStores.symm {w w' : World} (h : SameStores w w') : SameStores w' w :=
  ⟨h.contracts.symm, h.executions.symm, h.operations.symm, h.inbox.symm, h.settlements.symm,
    h.projections.symm⟩

theorem SameStores.trans {w₁ w₂ w₃ : World} (h : SameStores w₁ w₂) (h' : SameStores w₂ w₃) :
    SameStores w₁ w₃ :=
  ⟨h.contracts.trans h'.contracts, h.executions.trans h'.executions,
    h.operations.trans h'.operations, h.inbox.trans h'.inbox, h.settlements.trans h'.settlements,
    h.projections.trans h'.projections⟩

/-- A start that raises leaves the stores as they were. -/
theorem sameStores_of_startNext_error {u : String} {e : Exn} {w' : World}
    (h : (RttAttemptService.startNext d u at_).run (fun o w => w.answer d.rt oracle o) w =
      (.error e, w')) : SameStores w w' := by
  refine sameStores_of_run (ops_startNext.mono fun o ho => ho) h ?_
  refine (commitLast_startNext.unchanged_of_error World.executions ?_ ?_ (runs_of_run h)).symm
  · exact fun _ _ _ _ ho hsem => (World.frame_of_sem hsem).executions ho
  · exact fun _ _ _ _ hr hsem => executions_of_refused hr hsem

/-- A start through a padded identifier raises: no plan is stored under it. -/
theorem startNext_padded_raises (hs : w.executions.Consistent)
    (hutts : ∀ id p, w.executions.plans.get? id = some p → strip p.uttId = p.uttId)
    (hpadded : strip s ≠ s) :
    ∃ e w', (RttAttemptService.startNext d s at_).run (fun o w => w.answer d.rt oracle o) w =
      (.error e, w') := by
  rcases hrun : (RttAttemptService.startNext d s at_).run (fun o w => w.answer d.rt oracle o) w with
    ⟨e | a, w'⟩
  · exact ⟨e, w', hrun⟩
  · exfalso
    obtain ⟨q, -, -, -, hplan, -⟩ := runs_startNext (runs_of_run hrun)
    obtain ⟨planId, hid, hget⟩ := ExecutionStore.requirePlanForUtt_eq_ok.mp hplan
    obtain ⟨p, hp, hutt⟩ := hs.planOfUtt.mp hid
    have htrimmed := hutts planId p hp
    rw [hutt] at htrimmed
    exact hpadded htrimmed

theorem startNext_agrees_iff (hs : w.executions.Consistent)
    (hutts : ∀ id p, w.executions.plans.get? id = some p → strip p.uttId = p.uttId) :
    Agree d oracle (RttAttemptService.startNext d s at_) (RttAttemptService.startNext d (strip s) at_)
        w ↔
      strip s = s ∨ ¬ ∃ instant signedUtt check plan selected rttId uttHash payload signedRtt,
        Startable d oracle w (strip s) at_ instant signedUtt check plan selected rttId uttHash payload
          signedRtt := by
  rw [← run_startNext_iff hs (strip_strip s)]
  by_cases hpadded : strip s = s
  · rw [hpadded]
    exact iff_of_true (Agree.refl _) (.inl rfl)
  obtain ⟨e, w₁, hraw⟩ : ∃ e w₁, (RttAttemptService.startNext d s at_).run
      (fun o w => w.answer d.rt oracle o) w = (.error e, w₁) := startNext_padded_raises hs hutts hpadded
  have hraw' := sameStores_of_startNext_error hraw
  have hagree : Agree d oracle (RttAttemptService.startNext d s at_)
      (RttAttemptService.startNext d (strip s) at_) w ↔
      SameStores w₁ ((RttAttemptService.startNext d (strip s) at_).run
        (fun o w => w.answer d.rt oracle o) w).2 := by
    rw [Agree, hraw]
  rw [hagree]
  rcases htrimmed : (RttAttemptService.startNext d (strip s) at_).run
    (fun o w => w.answer d.rt oracle o) w with ⟨e' | a, w₂⟩
  · rw [htrimmed]
    refine iff_of_true (hraw'.symm.trans (sameStores_of_startNext_error htrimmed)) (.inr ?_)
    rintro ⟨_, _, h⟩
    cases h
  · rw [htrimmed]
    refine iff_of_false (fun hsame => ?_) (fun h => ?_)
    · -- the trimmed call has written a new version of the plan
      obtain ⟨q, selected, instant, -, hplan, -, -, -, -, hput⟩ :=
        runs_startNext (runs_of_run htrimmed)
      obtain ⟨planId, -, hget⟩ := ExecutionStore.requirePlanForUtt_eq_ok.mp hplan
      have hstored : w.executions.plans.get? q.planId = some q := by
        rw [hs.planKey hget]
        exact hget
      have hplans := congrArg (fun st => st.plans.get? q.planId) (hraw'.trans hsame).executions
      simp only [hput, ExecutionStore.plans_put] at hplans
      rw [hstored] at hplans
      have hnew : (q.afterStart a.rttId selected.candidate.routeId instant).planId = q.planId := rfl
      rw [hnew, Dict.get?_set_self, Option.some.injEq] at hplans
      have hversion := congrArg ExecutionPlan.version hplans
      change q.version = q.version + 1 at hversion
      omega
    · rcases h with h | h
      · exact hpadded h
      · exact h ⟨a, w₂, rfl⟩

end Agreement

end Execution

/-- In every reachable world, and for every text: a call through the text and the call through the
trimmed text leave the same stores if and only if the text is trimmed or the trimmed call is refused,
for the reasons that are listed for each operation.  A plan that awaits reconciliation can be resolved
if and only if its pointer is trimmed, and where all calls have named their RTTs trimmed, every such
plan can be resolved. -/
theorem padded_calls_agree_iff {d : Deployment} {w₀ : World} (h₀ : w₀.executions = .empty)
    (hutts : w₀.contracts.Trimmed) {x : Config Op.Resp Call Exn Reply World}
    (hx : (system d).Reachable w₀ x) (oracle : (o : Op) → o.Resp) (s : String) :
    (∀ failureCode disposition cost at_,
      Execution.Agree d oracle
          (RttAttemptService.recordFailure d s failureCode disposition cost at_)
          (RttAttemptService.recordFailure d (strip s) failureCode disposition cost at_) x.state ↔
        strip s = s ∨ ¬ (Execution.AwaitsOutcome x.state.executions s ∧ 0 ≤ cost ∧
          strip failureCode ≠ "" ∧ ∃ instant, at_ = .aware instant)) ∧
    (∀ cost at_,
      Execution.Agree d oracle (RttAttemptService.recordSuccess s cost at_)
          (RttAttemptService.recordSuccess (strip s) cost at_) x.state ↔
        strip s = s ∨ ¬ (Execution.AwaitsOutcome x.state.executions s ∧ 0 ≤ cost ∧
          ∃ instant, at_ = .aware instant)) ∧
    (∀ succeeded cost failureCode disposition at_,
      Execution.Agree d oracle
          (RttAttemptService.resolveReconciliation d s succeeded cost failureCode disposition at_)
          (RttAttemptService.resolveReconciliation d (strip s) succeeded cost failureCode disposition
            at_) x.state ↔
        strip s = s ∨ ¬ Execution.Resolvable x.state.executions s succeeded cost failureCode
          disposition at_) ∧
    (∀ at_,
      Execution.Agree d oracle (RttAttemptService.startNext d s at_)
          (RttAttemptService.startNext d (strip s) at_) x.state ↔
        strip s = s ∨ ¬ ∃ instant signedUtt check plan selected rttId uttHash payload signedRtt,
          Execution.Startable d oracle x.state (strip s) at_ instant signedUtt check plan selected
            rttId uttHash payload signedRtt) ∧
    (∀ id p, x.state.executions.plans.get? id = some p → p.status = .reconciliationRequired →
      ((∃ s succeeded cost failureCode disposition at_ q,
        ((RttAttemptService.resolveReconciliation d s succeeded cost failureCode disposition at_).run
          (fun o w => w.answer d.rt oracle o) x.state).1 = .ok q ∧ q.planId = id) ↔
        ∃ c, p.currentRttId = some c ∧ strip c = c)) ∧
    ((∀ t ∈ x.threads, ∀ r, t.call.named = some r → strip r = r) →
      ∀ id p, x.state.executions.plans.get? id = some p → p.status = .reconciliationRequired →
        ∃ c, p.currentRttId = some c ∧ strip c = c) := by
  have hs := Execution.consistent_of_reachable (h₀ ▸ .empty) hx
  have hpoints := Execution.pointsToCreated_of_reachable h₀ hx
  obtain ⟨htrimmed, hnamed⟩ := Execution.wellNamed_of_reachable hutts h₀ hx
  have huttIds : ∀ id p, x.state.executions.plans.get? id = some p → strip p.uttId = p.uttId := by
    intro id p hp
    obtain ⟨e, he⟩ := utt_of_plan h₀ hx hp
    exact htrimmed _ e he
  refine ⟨fun _ _ _ _ => Execution.recordFailure_agrees_iff hs hpoints,
    fun _ _ => Execution.recordSuccess_agrees_iff hs hpoints,
    fun _ _ _ _ _ => Execution.resolveReconciliation_agrees_iff hs,
    fun _ => Execution.startNext_agrees_iff hs huttIds,
    fun _ _ hp hstatus => Execution.exists_resolution_of_plan_iff hs hnamed hp hstatus, ?_⟩
  intro hcalls id p hp hstatus
  obtain ⟨a, ha, hparked⟩ := (hs.agrees hp).awaiting.mp hstatus
  obtain ⟨c, hc, -⟩ := ((hs.agrees hp).inFlight a ha).mp (by rw [hparked]; rfl)
  exact ⟨c, hc, Execution.trimmedPointers_of_reachable h₀ hx hcalls id p c hp hc⟩

/-! ## A padded report of the sample -/

namespace Sample

/-- The UTT is planned, its first attempt is started, and a padded report parks it. -/
def paddedParking : List (Action Call) :=
  started ++ perform 2 (.recordFailure " RTT-d106" "TIMEOUT" .reconciliationRequired 0 (.aware 0)) 3

theorem trimmed_world : world.contracts.Trimmed := by
  intro id e he
  change (Dict.empty.set "UTT-1" utt).get? id = some e at he
  rw [Dict.get?_set, Dict.get?_empty] at he
  split_ifs at he with heq
  rw [heq]
  decide

theorem parking_outcome :
    stateIn (run (fun _ _ _ => true) started) = some .created ∧
      ((run (fun _ _ _ => true) paddedParking).state.executions.plans.get? "PLAN-ce74").map
        (fun p => (p.status, p.currentRttId)) =
      some (.reconciliationRequired, some " RTT-d106") := by
  decide +kernel

theorem started_outcome :
    stateIn (run (fun _ _ _ => true) started) = some .created :=
  parking_outcome.1

theorem paddedParking_outcome :
    ((run (fun _ _ _ => true) paddedParking).state.executions.plans.get? "PLAN-ce74").map
        (fun p => (p.status, p.currentRttId)) =
      some (.reconciliationRequired, some " RTT-d106") :=
  parking_outcome.2

theorem reachable_run_bare (actions : List (Action Call)) :
    (system deployment).Reachable world (run (fun _ _ _ => true) actions) :=
  (system deployment).steps_of_guarded (reachable_run (fun _ _ _ => true) actions)

end Sample

/-- A report through a padded identifier leaves another plan than the trimmed one, and a plan that has
been parked so cannot be resolved. -/
theorem padded_report_differs :
    (¬ ∀ (d : Deployment) (w₀ : World), w₀.executions = .empty → w₀.contracts.Trimmed →
      ∀ x : Config Op.Resp Call Exn Reply World, (system d).Reachable w₀ x →
      ∀ (oracle : (o : Op) → o.Resp) (s failureCode : String) (disposition : FailureDisposition)
        (cost : Int) (at_ : Datetime),
      Execution.Agree d oracle
        (RttAttemptService.recordFailure d s failureCode disposition cost at_)
        (RttAttemptService.recordFailure d (strip s) failureCode disposition cost at_) x.state) ∧
    ¬ ∀ (d : Deployment) (w₀ : World), w₀.executions = .empty → w₀.contracts.Trimmed →
      ∀ x : Config Op.Resp Call Exn Reply World, (system d).Reachable w₀ x →
      ∀ (oracle : (o : Op) → o.Resp) (id : String) (p : ExecutionPlan),
      x.state.executions.plans.get? id = some p → p.status = .reconciliationRequired →
      ∃ s succeeded cost failureCode disposition at_ q,
        ((RttAttemptService.resolveReconciliation d s succeeded cost failureCode disposition at_).run
          (fun o w => w.answer d.rt oracle o) x.state).1 = .ok q ∧ q.planId = id := by
  have hpadded : strip " RTT-d106" = "RTT-d106" := by decide
  constructor
  · intro hclaim
    have hx := Sample.reachable_run_bare Sample.started
    have hs := Execution.consistent_of_reachable .empty hx
    have hagree := hclaim Sample.deployment Sample.world rfl Sample.trimmed_world _ hx Sample.oracle
      " RTT-d106" "TIMEOUT" .reconciliationRequired 0 (.aware 0)
    rw [Execution.recordFailure_agrees_iff hs (Execution.pointsToCreated_of_reachable rfl hx), hpadded]
      at hagree
    obtain ⟨a, ha, hstate⟩ := Option.map_eq_some_iff.mp Sample.started_outcome
    rcases hagree with heq | hrefused
    · exact absurd heq (by decide)
    · refine hrefused ⟨⟨?_, a, ?_, hstate⟩, le_rfl, by decide, 0, rfl⟩
      · rw [hpadded]
        decide
      · rw [hpadded]
        exact ha
  · intro hclaim
    have hx := Sample.reachable_run_bare Sample.paddedParking
    obtain ⟨p, hp, hparked⟩ := Option.map_eq_some_iff.mp Sample.paddedParking_outcome
    rw [Prod.mk.injEq] at hparked
    have hs := Execution.consistent_of_reachable .empty hx
    have hnamed := (Execution.wellNamed_of_reachable Sample.trimmed_world rfl hx).2
    obtain ⟨c, hc, htrimmed⟩ := (Execution.exists_resolution_of_plan_iff hs hnamed hp hparked.1).mp
      (hclaim Sample.deployment Sample.world rfl Sample.trimmed_world _ hx Sample.oracle _ p hp
        hparked.1)
    rw [hparked.2, Option.some.injEq] at hc
    rw [← hc, hpadded] at htrimmed
    exact absurd htrimmed (by decide)

/-- In the sample, a report of a success through the padded identifier does not agree with the trimmed
one while the attempt has no outcome. -/
theorem padded_calls_agree_iff_sample :
    Execution.Agree Sample.deployment Sample.oracle (RttAttemptService.recordSuccess " RTT-d106" 0 (.aware 0))
        (RttAttemptService.recordSuccess (strip " RTT-d106") 0 (.aware 0))
        (Sample.run (fun _ _ _ => true) Sample.started).state ↔
      strip " RTT-d106" = " RTT-d106" ∨
        ¬ (Execution.AwaitsOutcome (Sample.run (fun _ _ _ => true) Sample.started).state.executions
          " RTT-d106" ∧ 0 ≤ (0 : Int) ∧ ∃ instant, Datetime.aware 0 = .aware instant) :=
  (padded_calls_agree_iff rfl Sample.trimmed_world (Sample.reachable_run_bare Sample.started)
    Sample.oracle " RTT-d106").2.1 0 (.aware 0)

end RailOne
