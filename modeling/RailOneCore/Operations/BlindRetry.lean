import RailOneCore.Execution.Reconciliation
import RailOneCore.Operations.Runs
import RailOneCore.Platform.Persistence

/-!
# No blind retry

Two state machines decide whether a payment may be sent: the plan with its attempt in flight, and the
submission of that attempt.  They are linked by the RTT identifier only.  A second RTT of a UTT must
not be sent while the first one is in the air or its outcome is unknown.

Nothing in the code enforces this across the two machines: `record_failure` accepts a retryable
failure of an attempt whose submission is in doubt, and `dispatch` checks the attempt long before it
calls the adapter.  `cautious` is the discipline under which the rule holds in every run: the adapter
is called only for attempts that are still in flight, and a retryable failure is committed only for
an attempt whose submission is not in doubt.
-/

namespace RailOne

open Concurrent Ordered ProviderSubmissionCoordinator

/-- The submission has been sent, or may have been, and its outcome is not known. -/
def ProviderSubmissionState.inDoubt : ProviderSubmissionState → Bool
  | .dispatching | .unknown => true
  | .prepared | .accepted | .rejected => false

/-- A submission of the RTT is in doubt. -/
def World.inDoubt (w : World) (rttId : String) : Bool :=
  w.operations.submissionsByRtt.values.any fun s => strip s.rttId == strip rttId && s.state.inDoubt

/-- The RTT is the attempt in flight of its plan. -/
def World.inFlight (w : World) (rttId : String) : Bool :=
  match w.executions.attempts.get? (strip rttId) with
  | none => false
  | some a =>
    match w.executions.plans.get? a.planId with
    | none => false
    | some p => p.currentRttId.map strip == some a.rttId

/-- The discipline: adapters are called only for attempts in flight, and retryable failures are
committed only for attempts whose submissions are not in doubt. -/
def cautious (c : Call) (o : Op) (w : World) : Bool :=
  match c, o with
  | _, .invokeAdapter _ request => w.inFlight request.rttId
  | .recordFailure rttId _ .retryable _ _, .commitTransition .. => !w.inDoubt rttId
  | _, _ => true

/-- The attempt was closed by a resolution in the run with these events. -/
def ClosedByResolution (l : List (System.Event Call Op World)) (rttId : String) : Prop :=
  ∃ e ∈ l, e.call.isResolution = true ∧ ∃ a a', e.before.executions.attempts.get? rttId = some a ∧
    a.state.isOpen = true ∧ e.after.executions.attempts.get? rttId = some a' ∧
    a'.state.isOpen = false

namespace Operations

variable {d : Deployment} {w w' : World}

/-- What is known of an RTT that has been sent: its attempt is open, or its plan is over, or its
submission has a definite outcome, or a resolution has closed it. -/
structure Accounted (l : List (System.Event Call Op World)) (w : World)
    (sent : ProviderExecutionRequest) (a : RttAttemptRecord) : Prop where
  stored : w.executions.attempts.get? (strip sent.rttId) = some a
  uttId : a.uttId = sent.uttId
  outcome : a.state.isOpen = true ∨
    (∃ p, w.executions.plans.get? a.planId = some p ∧ p.status.isTerminal = true) ∨
    (∃ s, w.operations.submissionsByRtt.get? sent.rttId = some s ∧
      (s.state = .accepted ∨ s.state = .rejected)) ∨
    ClosedByResolution l (strip sent.rttId)

/-- A definite outcome stays. -/
theorem definite_of_evolves {sent : ProviderExecutionRequest}
    (he : w.operations.Evolves w'.operations)
    (h : ∃ s, w.operations.submissionsByRtt.get? sent.rttId = some s ∧
      (s.state = .accepted ∨ s.state = .rejected)) :
    ∃ s, w'.operations.submissionsByRtt.get? sent.rttId = some s ∧
      (s.state = .accepted ∨ s.state = .rejected) := by
  obtain ⟨s, hs, hstate⟩ := h
  obtain ⟨t, ht, -, -, -, hfinal, -⟩ := he.submission hs
  have hts : t = s := hfinal (by rcases hstate with h | h <;> rw [h] <;> rfl)
  exact ⟨s, hts ▸ ht, hstate⟩

/-- What a step does to an open attempt: it stays open, or its plan is over, or a resolution closes
it, or a retryable failure does. -/
theorem open_of_effect {cause : ExecutionCause} {s s' : ExecutionStore} {r : String}
    {a : RttAttemptRecord} (h : ExecutionEffect .bare cause s s')
    (ha : s.attempts.get? r = some a) (hopen : a.state.isOpen = true) :
    ∃ a', s'.attempts.get? r = some a' ∧ SameAttempt a a' ∧ (a'.state.isOpen = true ∨
      (∃ p, s'.plans.get? a'.planId = some p ∧ p.status.isTerminal = true) ∨
      cause = .resolve ∧ a'.state.isOpen = false ∨
      ∃ c, cause = .recordFailure c .retryable ∧ strip c = a.rttId ∧ a' ≠ a) := by
  cases h with
  | unchanged => exact ⟨a, ha, .refl a, .inl hopen⟩
  | planned p hcause hutt hid hnew hknown => exact ⟨a, ha, .refl a, .inl hopen⟩
  | started p p' b hcause hp hsame hversion hready hplan' hfresh hstrip hlineage hnew hknown =>
    refine ⟨a, ?_, .refl a, .inl hopen⟩
    rw [ExecutionStore.attempts_put, Dict.get?_set, if_neg ?_]
    · exact ha
    · rintro rfl
      rw [hfresh] at ha
      cases ha
  | closed p p' b b' hcause hlive hp hsame hversion hused hb hplan hcurrent hattempt hcloses hname
      hreported hcreated =>
    rw [ExecutionStore.attempts_put]
    by_cases heq : r = b'.rttId
    · rw [heq, hattempt.rttId, hb] at ha
      cases ha
      refine ⟨b', by rw [heq, Dict.get?_set_self], hattempt, ?_⟩
      have hplan' : (s.put p' b').plans.get? b'.planId = some p' := by
        rw [ExecutionStore.plans_put, hattempt.planId, hplan, ← hsame.planId, Dict.get?_set_self]
      cases hcloses with
      | parked c hc hid hs ha => exact .inl (by rw [ha]; rfl)
      | succeeded hc hs hr ha => exact .inr (.inl ⟨p', hplan', by rw [hs]; rfl⟩)
      | failed hc hs hf ha =>
        cases hstatus : p'.status with
        | reconciliationRequired => exact absurd hstatus hs
        | finalized => exact absurd hstatus hf
        | failed | exhausted => exact .inr (.inl ⟨p', hplan', by rw [hstatus]; rfl⟩)
        | active =>
          rw [hstatus] at hcause
          cases cause with
          | resolve => exact .inr (.inr (.inl ⟨rfl, by rw [ha]; rfl⟩))
          | recordFailure c disposition =>
            cases disposition with
            | retryable =>
              refine .inr (.inr (.inr ⟨c, rfl, hreported c _ rfl, ?_⟩))
              rintro rfl
              rw [ha] at hopen
              cases hopen
            | terminal | reconciliationRequired => cases hcause
          | plan | start | recordSuccess | other => cases hcause
    · exact ⟨a, by rw [Dict.get?_set, if_neg heq]; exact ha, .refl a, .inl hopen⟩

theorem call_of_cause {c : Call} {rttId : String}
    (h : c.cause = .recordFailure rttId .retryable) :
    ∃ code cost at_, c = .recordFailure rttId code .retryable cost at_ := by
  cases c with
  | recordFailure =>
    cases h
    exact ⟨_, _, _, rfl⟩
  | _ => cases h

/-- A step keeps what is known of an RTT that had been sent before. -/
theorem Accounted.step {l : List (System.Event Call Op World)} {c : Call} {o : Op} {r : o.Resp}
    {sent : ProviderExecutionRequest} {a : RttAttemptRecord} (h : Accounted l w sent a)
    (hcautious : cautious c o w = true) (hsem : World.sem d.rt o w r w')
    (hconsistent : w.executions.Consistent)
    (heff : ExecutionEffect .bare c.cause w.executions w'.executions)
    (hops : w.operations.Evolves w'.operations) (hcons : w.operations.Consistent d)
    (hsent : ∃ s, w.operations.submissionsByRtt.get? sent.rttId = some s ∧ s.state ≠ .prepared) :
    ∃ a', Accounted (l ++ [⟨c, o, w, w'⟩]) w' sent a' := by
  have hclosed : ClosedByResolution l (strip sent.rttId) →
      ClosedByResolution (l ++ [⟨c, o, w, w'⟩]) (strip sent.rttId) := by
    rintro ⟨e, he, hrest⟩
    exact ⟨e, List.mem_append_left _ he, hrest⟩
  rcases h.outcome with hopen | ⟨p, hp, hterm⟩ | hdef | hres
  · obtain ⟨a', ha', hsame, hcases⟩ := open_of_effect heff h.stored hopen
    have hkey : a.rttId = strip sent.rttId := (hconsistent.attemptKey h.stored).1
    refine ⟨a', ha', hsame.uttId.trans h.uttId, ?_⟩
    rcases hcases with hopen' | hterm | ⟨hcause, hshut⟩ | ⟨rttId, hcause, hid, hne⟩
    · exact .inl hopen'
    · exact .inr (.inl hterm)
    · exact .inr (.inr (.inr ⟨_, List.mem_append_right _ List.mem_cons_self,
        Execution.isResolution_of_cause hcause, a, a', h.stored, hopen, ha', hshut⟩))
    · -- the discipline: the submission is not in doubt when the failure is committed
      obtain ⟨code, cost, at_, rfl⟩ := call_of_cause hcause
      have hcommit := Execution.isCommitTransition_of_sem hsem h.stored ha' hne
      have hdoubt : w.inDoubt rttId = false := by
        cases o with
        | commitTransition => simpa [cautious] using hcautious
        | _ => cases hcommit
      obtain ⟨s, hs, hprepared⟩ := hsent
      have hsdoubt : s.state.inDoubt = false := by
        by_contra hd
        rw [World.inDoubt, List.any_eq_false] at hdoubt
        refine hdoubt s (Dict.mem_values.mpr ⟨_, hs⟩) ?_
        rw [Bool.and_eq_true, beq_iff_eq, hcons.key hs, ← hkey, hid]
        exact ⟨rfl, by simpa using hd⟩
      refine .inr (.inr (.inl (definite_of_evolves hops ⟨s, hs, ?_⟩)))
      cases hstate : s.state with
      | accepted => exact .inl rfl
      | rejected => exact .inr rfl
      | prepared => exact absurd hstate hprepared
      | dispatching | unknown =>
        rw [hstate] at hsdoubt
        cases hsdoubt
  · obtain ⟨a', ha', hsame⟩ := heff.evolves.attempt h.stored
    obtain ⟨p', hp', -, -, -, heq⟩ := heff.evolves.plan hp
    exact ⟨a', ha', hsame.uttId.trans h.uttId,
      .inr (.inl ⟨p', by rw [hsame.planId]; exact hp', by rw [heq hterm]; exact hterm⟩)⟩
  · obtain ⟨a', ha', hsame⟩ := heff.evolves.attempt h.stored
    exact ⟨a', ha', hsame.uttId.trans h.uttId, .inr (.inr (.inl (definite_of_evolves hops hdef)))⟩
  · obtain ⟨a', ha', hsame⟩ := heff.evolves.attempt h.stored
    exact ⟨a', ha', hsame.uttId.trans h.uttId, .inr (.inr (.inr (hclosed hres)))⟩

section Runs

variable {w₀ : World} {x y z : Config Op.Resp Call Exn Reply World}
  {l : List (System.Event Call Op World)}

/-- What a step of a cautious run does, in terms of both machines. -/
theorem guarantee_of_performs (h₀ : w₀.executions = .empty) (hops : w₀.operations = .empty)
    (hcalls : w₀.invocations = [])
    (hx : ((system d).guarded fun c o w => cautious c o w = true).Reachable w₀ x)
    (hz : World.Earlier x.state z.state) {i : ℕ} {c : Call} {o : Op}
    (h : ((system d).guarded fun c o w => cautious c o w = true).Performs i c o x y) :
    (protocol d (fun w => World.Earlier w z.state) (fun _ => True) none).Inv x.state ∧
      Guarantee d (fun w => World.Earlier w z.state) (fun _ => True) o x.state y.state := by
  have hcons : w₀.executions.Consistent := h₀ ▸ .empty
  have hreach : ((system d).guarded fun c o w =>
      cautious c o w = true ∧ World.Earlier w z.state).Reachable w₀ x := by
    refine (system d).steps_guarded_mono ?_ (steps_earlier hcons .refl hx).1
    exact fun c o w hw => ⟨hw.1, hw.2.trans hz⟩
  have hholds := holds_of_reachable (F := fun _ => True) stable_true
    (fun c o w (hw : cautious c o w = true ∧ World.Earlier w z.state) => hw.2) trivial hops hcalls
    (fun t _ => Call.tracked_none t.call) hreach
  obtain ⟨k, r, hi, hsem, ht⟩ := h
  exact ⟨hholds.1, (System.holds_of_performs (fun _ _ _ _ _ => rely_of_guarantee) hholds
    ⟨k, r, hi, ⟨⟨hsem.1, hz⟩, hsem.2⟩, ht⟩).2⟩

end Runs

end Operations

namespace Sample

/-- A provider that does not support idempotency. -/
def provider : ProviderAdapter := .plain "MPESA" false

end Sample

end RailOne
