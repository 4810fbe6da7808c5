import RailOneCore.Library.Interleaving

/-!
# Executing schedules

A schedule is a list of actions: start a call, or let one of the started calls take its next step.
Given a function that chooses the answers of operations, a schedule is executed by evaluation, and
the configuration that it ends in is one that the system reaches.  This is how concrete interleavings
are exhibited.
-/

namespace Concurrent

variable {Op Call : Type} {Resp : Op → Type} {ε α σ : Type}

/-- An action of a scheduler. -/
inductive Action (Call : Type)
  /-- Start a call. -/
  | start (c : Call)
  /-- Let the `i`-th call perform its next operation. -/
  | step (i : ℕ)

namespace System

variable (S : System Resp Call ε α σ) (answer : (c : Call) → (o : Op) → σ → Option (Resp o × σ))

/-- Take one action.  A call that has ended, or whose operation gets no answer, stays as it is. -/
def act (x : Config Resp Call ε α σ) : Action Call → Config Resp Call ε α σ
  | .start c => ⟨x.state, x.threads ++ [⟨c, S.body c⟩]⟩
  | .step i =>
    match x.threads[i]? with
    | some ⟨c, .op o k⟩ =>
      match answer c o x.state with
      | some (r, s) => ⟨s, x.threads.set i ⟨c, k r⟩⟩
      | none => x
    | _ => x

/-- Whether the `i`-th call has not ended and its next operation gets an answer. -/
def canStep (answer : (c : Call) → (o : Op) → σ → Option (Resp o × σ))
    (x : Config Resp Call ε α σ) (i : ℕ) : Bool :=
  match x.threads[i]? with
  | some ⟨c, .op o _⟩ => (answer c o x.state).isSome
  | _ => false

/-- Execute a schedule. -/
def schedule (actions : List (Action Call)) (x : Config Resp Call ε α σ) :
    Config Resp Call ε α σ :=
  actions.foldl (S.act answer) x

/-- The operation that an action performs, if it performs one. -/
def performed (answer : (c : Call) → (o : Op) → σ → Option (Resp o × σ))
    (x : Config Resp Call ε α σ) : Action Call → List (Event Call Op σ)
  | .start _ => []
  | .step i =>
    match x.threads[i]? with
    | some ⟨c, .op o _⟩ =>
      match answer c o x.state with
      | some (_, s) => [⟨c, o, x.state, s⟩]
      | none => []
    | _ => []

/-- The operations that a schedule performs. -/
def events : List (Action Call) → Config Resp Call ε α σ → List (Event Call Op σ)
  | [], _ => []
  | a :: actions, x => performed answer x a ++ events actions (S.act answer x a)

variable {S answer}

/-- The calls that an executed schedule has started are those of its actions. -/
theorem call_mem_schedule (answer : (c : Call) → (o : Op) → σ → Option (Resp o × σ))
    {actions : List (Action Call)} {x : Config Resp Call ε α σ} {t : Thread Resp Call ε α}
    (ht : t ∈ (S.schedule answer actions x).threads) :
    .start t.call ∈ actions ∨ ∃ t' ∈ x.threads, t'.call = t.call := by
  induction actions generalizing x with
  | nil => exact .inr ⟨t, ht, rfl⟩
  | cons a actions ih =>
    rcases ih ht with h | ⟨t', ht', heq⟩
    · exact .inl (List.mem_cons_of_mem _ h)
    · cases a with
      | start c =>
        rcases List.mem_append.mp ht' with ht' | ht'
        · exact .inr ⟨t', ht', heq⟩
        · rw [List.mem_singleton] at ht'
          subst ht'
          exact .inl (heq ▸ List.mem_cons_self)
      | step i =>
        unfold act at ht'
        dsimp only at ht'
        split at ht'
        · next c o k hi =>
          split at ht'
          · rcases List.mem_or_eq_of_mem_set ht' with ht' | rfl
            · exact .inr ⟨t', ht', heq⟩
            · exact .inr ⟨_, List.mem_of_getElem? hi, heq⟩
          · exact .inr ⟨t', ht', heq⟩
        · exact .inr ⟨t', ht', heq⟩

/-- A call that can step performs its next operation when it is scheduled. -/
theorem exists_performs (h : ∀ c o s r s', answer c o s = some (r, s') → S.sem c o s r s')
    {x : Config Resp Call ε α σ} {i : ℕ} (hcan : canStep answer x i = true) :
    ∃ t o, x.threads[i]? = some t ∧ S.Performs i t.call o x (S.act answer x (.step i)) := by
  unfold canStep at hcan
  split at hcan
  · next c o k hi =>
    obtain ⟨⟨r, s⟩, hr⟩ := Option.isSome_iff_exists.mp hcan
    refine ⟨_, o, hi, k, r, hi, ?_, ?_⟩
    · simpa [act, hi, hr] using h _ _ _ _ _ hr
    · simp [act, hi, hr]
  · cases hcan

/-- An action continues a run by the operation that it performs. -/
theorem trace_act (h : ∀ c o s r s', answer c o s = some (r, s') → S.sem c o s r s')
    (a : Action Call) {x y : Config Resp Call ε α σ} {l : List (Event Call Op σ)}
    (hy : S.Trace x l y) : S.Trace x (l ++ performed answer y a) (S.act answer y a) := by
  cases a with
  | start c =>
    rw [performed, List.append_nil]
    exact .spawn hy c
  | step i =>
    unfold performed act
    dsimp only
    split
    · next c o k hi =>
      split
      · next r s hr =>
        have hp : S.Performs i c o y ⟨s, y.threads.set i ⟨c, k r⟩⟩ :=
          ⟨k, r, hi, h _ _ _ _ _ hr, rfl⟩
        exact .perform hy hp
      · rw [List.append_nil]
        exact hy
    · rw [List.append_nil]
      exact hy

/-- A schedule continues a run by the operations that it performs. -/
theorem trace_schedule (h : ∀ c o s r s', answer c o s = some (r, s') → S.sem c o s r s')
    (actions : List (Action Call)) {x y : Config Resp Call ε α σ} {l : List (Event Call Op σ)}
    (hy : S.Trace x l y) :
    S.Trace x (l ++ S.events answer actions y) (S.schedule answer actions y) := by
  induction actions generalizing y l with
  | nil =>
    rw [events, List.append_nil]
    exact hy
  | cons a actions ih =>
    rw [events, ← List.append_assoc]
    exact ih (trace_act h a hy)

/-- The configuration that a schedule ends in is reached by a run. -/
theorem exists_trace_schedule (h : ∀ c o s r s', answer c o s = some (r, s') → S.sem c o s r s')
    (actions : List (Action Call)) {x y : Config Resp Call ε α σ} {l : List (Event Call Op σ)}
    (hy : S.Trace x l y) : ∃ l', S.Trace x l' (S.schedule answer actions y) :=
  ⟨_, trace_schedule h actions hy⟩

/-- The configuration that a schedule ends in is reached by steps of the system. -/
theorem steps_schedule (h : ∀ c o s r s', answer c o s = some (r, s') → S.sem c o s r s')
    (actions : List (Action Call)) (x : Config Resp Call ε α σ) :
    S.Steps x (S.schedule answer actions x) := by
  obtain ⟨l, hl⟩ := exists_trace_schedule h actions (.nil (S := S) (x := x))
  exact S.steps_of_trace hl

end System

end Concurrent
