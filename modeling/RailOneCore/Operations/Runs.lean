import RailOneCore.Operations.Protocol
import RailOneCore.Platform.Footprint

/-!
# Runs of the platform and the operations store

In every run of the platform, whatever the interleaving, submissions and events move in lock-step and
adapters are called only for submissions that have been moved to `DISPATCHING`.
-/

namespace RailOne

open Concurrent

/-- Dispatches of the tracked RTT come only with adapters that do not support idempotency. -/
def Call.Tracked (track : Option String) : Call → Prop
  | .dispatch rttId adapter _ => track = some rttId → adapter.supportsIdempotency = false
  | _ => True

theorem Call.tracked_none (c : Call) : c.Tracked none := by
  cases c <;> simp [Call.Tracked]

namespace Operations

variable {d : Deployment} {guard : Call → Op → World → Prop} {K F : World → Prop}
  {track : Option String} {w₀ : World} {x y : Config Op.Resp Call Exn Reply World}

/-- Every call respects the life of submissions. -/
theorem respects_body (hF : Stable F) (hK : ∀ c o w, guard c o w → K w) (c : Call)
    (hc : c.Tracked track) (w : World) (hinv : (protocol d K F track).Inv w) :
    Respects d (guard c) K F track anyEnd (c.body d) 0 w := by
  have hquiet : Part.operations ∉ c.parts → Part.invocations ∉ c.parts →
      Respects d (guard c) K F track anyEnd (c.body d) 0 w := by
    intro h₁ h₂
    refine Safe.of_ops (A := quietOp) (fun o s r s' ho hi h => ?_) (fun _ _ => trivial) ?_ w
    · obtain ⟨hi', -, hg⟩ := quiet hF ho hi h
      exact ⟨hi', hg⟩
    · refine (ops_body d c).mono fun o ho => ⟨fun heq => h₁ ?_, fun heq => h₂ ?_⟩
      · rwa [← heq]
      · rwa [← heq]
  cases c with
  | prepare =>
    exact Safe.map _ (respects_prepare hF (hK _) _ _) (fun _ _ _ _ => trivial) fun _ _ _ _ => trivial
  | dispatch =>
    exact Safe.map _ (respects_dispatch hF (hK _) _ _ _ hc hinv) (fun _ _ _ _ => trivial)
      fun _ _ _ _ => trivial
  | publishBatch =>
    exact Safe.map _ (respects_publishBatch hF _ _ _) (fun _ _ _ _ => trivial)
      fun _ _ _ _ => trivial
  | issueQuote | accept | buildPlan | startNext | recordFailure | recordSuccess
  | resolveReconciliation => exact hquiet (by simp [Call.parts]) (by simp [Call.parts])

/-- Before anything has been submitted, the invariant holds. -/
theorem inv_of_empty (hF : F w₀) (hops : w₀.operations = .empty) (hcalls : w₀.invocations = []) :
    (protocol d K F track).Inv w₀ := by
  refine ⟨hF, by rw [hops]; exact .empty d, by simp [hcalls], fun r _ => ?_⟩
  simp [invocationsOf, hcalls]

theorem permissions_of_empty (hops : w₀.operations = .empty) : permissions track w₀ = 0 := by
  unfold permissions dispatched
  cases track <;> simp [hops, OperationsStore.empty]

/-- The protocol of submissions holds throughout every run. -/
theorem holds_of_reachable (hF : Stable F) (hK : ∀ c o w, guard c o w → K w) (hF₀ : F w₀)
    (hops : w₀.operations = .empty) (hinvocations : w₀.invocations = [])
    (hcalls : ∀ t ∈ x.threads, t.call.Tracked track)
    (hx : ((system d).guarded guard).Reachable w₀ x) :
    (protocol d K F track).Holds ((system d).guarded guard) (fun _ _ => Guarantee d K F)
      (fun _ => anyEnd) x := by
  refine System.holds_of_reachable (A := Call.Tracked track) (fun _ _ _ _ _ => rely_of_guarantee)
    (inv_of_empty hF₀ hops hinvocations) (permissions_of_empty hops) ?_ hcalls hx
  exact fun _ c s hc hi => respects_body hF hK c hc s hi

/-- Every step of a run has one of the listed effects on the operations store. -/
theorem effect_of_performs (hops : w₀.operations = .empty) (hinvocations : w₀.invocations = [])
    (hx : (system d).Reachable w₀ x) {i : ℕ} {c : Call} {o : Op}
    (h : (system d).Performs i c o x y) :
    x.state.operations.Consistent d ∧
      SubmissionEffect d x.state.operations y.state.operations := by
  have hreach : ((system d).guarded fun _ _ _ => True).Reachable w₀ x :=
    (system d).steps_guarded_of_forall (fun _ _ _ => trivial) hx
  have hholds := holds_of_reachable (K := fun _ => True) stable_true (fun _ _ _ _ => trivial) trivial
    hops hinvocations (fun t _ => t.call.tracked_none) hreach
  obtain ⟨k, r, hi, hsem, ht⟩ := h
  exact ⟨hholds.1.2.1, (System.holds_of_performs (fun _ _ _ _ _ => rely_of_guarantee) hholds
    ⟨k, r, hi, ⟨trivial, hsem⟩, ht⟩).2.effect⟩

end Operations

end RailOne
