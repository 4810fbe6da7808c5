import RailOneCore.Execution.Runs

/-!
# What persists along a run

UTTs, plans and attempts are never removed: every world of a run is earlier than the worlds after it
in the sense of `World.Earlier`.  A run to `z` is therefore a run all of whose steps happen in worlds
earlier than `z`, so that what different calls have read at different times can be compared in `z`.
-/

namespace RailOne

open Concurrent Ordered

/-- What is stored in `w` is still there in `w'`. -/
structure World.Earlier (w w' : World) : Prop where
  executions : w.executions.Evolves w'.executions
  utts : ∀ {id e}, w.contracts.utts.get? id = some e → w'.contracts.utts.get? id = some e

namespace World.Earlier

theorem refl (w : World) : World.Earlier w w := ⟨.refl _, fun h => h⟩

theorem trans {w₁ w₂ w₃ : World} (h : World.Earlier w₁ w₂) (h' : World.Earlier w₂ w₃) :
    World.Earlier w₁ w₃ :=
  ⟨h.executions.trans h'.executions, fun he => h'.utts (h.utts he)⟩

end World.Earlier

/-- No step removes or replaces a UTT. -/
theorem utts_of_sem {rt : Runtime} {o : Op} {w w' : World} {r : o.Resp}
    (h : World.sem rt o w r w') {id : String} {e : SignatureEnvelope}
    (he : w.contracts.utts.get? id = some e) : w'.contracts.utts.get? id = some e := by
  by_cases hpart : o.part = .contracts
  · cases o <;> simp only [Op.part, reduceCtorEq] at hpart
    case commitAcceptance key contract =>
      rcases Commits.cases h with ⟨res, st, hst, -, rfl⟩ | ⟨exn, -, -, rfl⟩
      · rcases ContractStore.commitAcceptance_eq_ok hst with ⟨rfl, -⟩ | ⟨-, -, -, hfresh, -, -, hutts⟩
        · exact he
        · change st.utts.get? id = some e
          rw [hutts, Dict.get?_set, if_neg ?_]
          · exact he
          · rintro rfl
            rw [hfresh] at he
            cases he
      · exact he
  · rw [(World.frame_of_sem h).contracts hpart]
    exact he

section Runs

variable {d : Deployment} {guard : Call → Op → World → Prop} {w₀ : World}
  {x y z : Config Op.Resp Call Exn Reply World}

/-- Every step leads to a later world. -/
theorem earlier_of_step (h₀ : w₀.executions.Consistent)
    (hx : ((system d).guarded guard).Reachable w₀ x)
    (h : ((system d).guarded guard).Step x y) : World.Earlier x.state y.state := by
  cases h with
  | spawn c => exact .refl _
  | perform i c o h =>
    obtain ⟨k, r, -, hsem, -⟩ := id h
    exact ⟨(Execution.effect_of_performs Execution.ensures_bare h₀ hx h).evolves,
      utts_of_sem hsem.2⟩

/-- A run to `z` takes all its steps in worlds earlier than `z`. -/
theorem steps_earlier (h₀ : w₀.executions.Consistent)
    (hx : ((system d).guarded guard).Reachable w₀ x)
    (h : ((system d).guarded guard).Steps x z) :
    ((system d).guarded fun c o w => guard c o w ∧ World.Earlier w z.state).Steps x z ∧
      World.Earlier x.state z.state := by
  induction h using Relation.ReflTransGen.head_induction_on with
  | refl => exact ⟨.refl, .refl _⟩
  | head hstep _ ih =>
    obtain ⟨hsteps, hearlier⟩ := ih (hx.tail hstep)
    have hle := (earlier_of_step h₀ hx hstep).trans hearlier
    refine ⟨.head ?_ hsteps, hle⟩
    cases hstep with
    | spawn c => exact .spawn c
    | perform i c o hp =>
      obtain ⟨k, r, hi, hsem, ht⟩ := hp
      exact .perform i c o ⟨k, r, hi, ⟨⟨hsem.1, hle⟩, hsem.2⟩, ht⟩

/-- The UTT of every stored plan is stored. -/
theorem utt_of_plan (h₀ : w₀.executions = .empty) (hx : (system d).Reachable w₀ x) {id : String}
    {p : ExecutionPlan} (hp : x.state.executions.plans.get? id = some p) :
    ∃ e, x.state.contracts.utts.get? p.uttId = some e := by
  have hempty : w₀.executions.Consistent := h₀ ▸ .empty
  have hbare : ((system d).guarded fun _ _ _ => True).Reachable w₀ x :=
    (system d).steps_guarded_of_forall (fun _ _ _ => trivial) hx
  obtain ⟨hsteps, -⟩ := steps_earlier hempty .refl hbare
  -- every plan was created after its UTT had been read in an earlier world
  have hensures : Execution.Ensures d (fun _ _ w => True ∧ World.Earlier w x.state)
      ⟨False, fun plan => ∃ e, x.state.contracts.utts.get? plan.uttId = some e,
        fun _ _ => True⟩ := by
    refine ⟨False.elim, fun c plan horigin => ?_, fun _ _ _ _ => trivial⟩
    obtain ⟨w, e, hguard, he⟩ := horigin.stored
    exact ⟨e, hguard.2.utts he⟩
  have hF : ∀ p p' : ExecutionPlan, SamePlan p p' →
      (∃ e, x.state.contracts.utts.get? p.uttId = some e) →
      ∃ e, x.state.contracts.utts.get? p'.uttId = some e := by
    intro p p' hsame hp
    rw [hsame.uttId]
    exact hp
  exact Execution.forall_plan_of_reachable hensures hF (fun _ h => h) h₀ hsteps id p hp

end Runs

end RailOne
