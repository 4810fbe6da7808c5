import Mathlib.Logic.Relation

/-!
# Programs that talk to shared state through operations

A `Prog` is the code of one call: a tree whose inner nodes are operations on shared state and whose
leaves are results or raised exceptions.  All local computation of the call sits in the
continuations, so the operations are exactly the points at which another call may interfere.

The file gives programs their monad (so that code is written in `do` notation), the sequential
semantics `Runs` (the call is executed without interference), the semantics `Partially` of a call
that stops between two of its operations, and two structural predicates: `Ops P`, every operation
the program may issue satisfies `P`, and `CommitLast`, the only operation of the program that may
change the state is its last one.
-/

namespace Concurrent

/-- The code of one call.  `Resp o` is the type of answers to the operation `o`. -/
inductive Prog {Op : Type} (Resp : Op → Type) (ε α : Type) : Type
  /-- The call has ended, with a result or with a raised exception. -/
  | ret (r : Except ε α)
  /-- The call issues the operation `o` and goes on with its answer. -/
  | op (o : Op) (k : Resp o → Prog Resp ε α)

namespace Prog

variable {Op : Type} {Resp : Op → Type} {ε α β σ : Type}

/-! ## Composition -/

/-- Run `p` and pass its result on; an exception of `p` ends the composition. -/
def bind : Prog Resp ε α → (α → Prog Resp ε β) → Prog Resp ε β
  | .ret (.ok a), f => f a
  | .ret (.error e), _ => .ret (.error e)
  | .op o k, f => .op o fun r => (k r).bind f

instance : Monad (Prog Resp ε) where
  pure a := .ret (.ok a)
  bind := Prog.bind

/-- End the call with the exception `e`. -/
def raise (e : ε) : Prog Resp ε α := .ret (.error e)

instance : MonadLift (Except ε) (Prog Resp ε) where
  monadLift x := .ret x

@[simp] theorem pure_eq (a : α) : (pure a : Prog Resp ε α) = .ret (.ok a) := rfl

@[simp] theorem raise_eq (e : ε) : (raise e : Prog Resp ε α) = .ret (.error e) := rfl

@[simp] theorem liftM_eq (x : Except ε α) : (liftM x : Prog Resp ε α) = .ret x := rfl

@[simp] theorem monadLift_eq (x : Except ε α) : (monadLift x : Prog Resp ε α) = .ret x := rfl

@[simp] theorem ret_ok_bind (a : α) (f : α → Prog Resp ε β) :
    (Prog.ret (.ok a) >>= f) = f a := rfl

@[simp] theorem ret_error_bind (e : ε) (f : α → Prog Resp ε β) :
    (Prog.ret (.error e) >>= f) = .ret (.error e) := rfl

@[simp] theorem op_bind (o : Op) (k : Resp o → Prog Resp ε α) (f : α → Prog Resp ε β) :
    (Prog.op o k >>= f) = .op o fun r => k r >>= f := rfl

@[simp] theorem bind_eq (p : Prog Resp ε α) (f : α → Prog Resp ε β) : p.bind f = (p >>= f) := rfl

theorem bind_ret (p : Prog Resp ε α) : (p >>= fun a => .ret (.ok a)) = p := by
  induction p with
  | ret r => cases r <;> rfl
  | op o k ih => exact congrArg (Prog.op o) (funext ih)

/-- Sequencing is associative. -/
theorem bind_assoc {γ : Type} (p : Prog Resp ε α) (f : α → Prog Resp ε β)
    (g : β → Prog Resp ε γ) : (p >>= f) >>= g = p >>= fun a => f a >>= g := by
  induction p with
  | ret r => cases r <;> rfl
  | op o k ih => exact congrArg (Prog.op o) (funext ih)

/-- Issue the operation `o`; an exception that it answers ends the call. -/
def call {Ret : Op → Type} (o : Op) : Prog (fun o => Except ε (Ret o)) ε (Ret o) := .op o .ret

/-- Run `p` and hand over how it ended; this is `try`. -/
def outcome : Prog Resp ε α → Prog Resp ε (Except ε α)
  | .ret r => .ret (.ok r)
  | .op o k => .op o fun r => (k r).outcome

/-- The program, started in `s` and executed without interference, ends with `r'` in `s'`.
`sem o s r s'` says that the operation `o`, performed in `s`, may answer `r` and leave `s'`. -/
def Runs (sem : (o : Op) → σ → Resp o → σ → Prop) :
    Prog Resp ε α → σ → Except ε α → σ → Prop
  | .ret r, s, r', s' => r' = r ∧ s' = s
  | .op o k, s, r', s' => ∃ r s₁, sem o s r s₁ ∧ Runs sem (k r) s₁ r' s'

/-- The program, started in `s` and executed without interference, is in `s'` when it stops: it may
stop before any of its operations, or after the last one. -/
def Partially (sem : (o : Op) → σ → Resp o → σ → Prop) : Prog Resp ε α → σ → σ → Prop
  | .ret _, s, s' => s' = s
  | .op o k, s, s' => s' = s ∨ ∃ r s₁, sem o s r s₁ ∧ Partially sem (k r) s₁ s'

section Runs

variable {sem : (o : Op) → σ → Resp o → σ → Prop}

@[simp] theorem runs_ret {r r' : Except ε α} {s s' : σ} :
    (Prog.ret r : Prog Resp ε α).Runs sem s r' s' ↔ r' = r ∧ s' = s := Iff.rfl

@[simp] theorem runs_op {o : Op} {k : Resp o → Prog Resp ε α} {s s' : σ} {r' : Except ε α} :
    (Prog.op o k).Runs sem s r' s' ↔ ∃ r s₁, sem o s r s₁ ∧ (k r).Runs sem s₁ r' s' := Iff.rfl

/-- Execute a program, given a function that chooses the answers of operations. -/
def run (answer : (o : Op) → σ → Resp o × σ) : Prog Resp ε α → σ → Except ε α × σ
  | .ret r, s => (r, s)
  | .op o k, s => (k (answer o s).1).run answer (answer o s).2

/-- What is executed is a sequential run. -/
theorem runs_run {answer : (o : Op) → σ → Resp o × σ}
    (h : ∀ o s, sem o s (answer o s).1 (answer o s).2) (p : Prog Resp ε α) (s : σ) :
    p.Runs sem s (p.run answer s).1 (p.run answer s).2 := by
  induction p generalizing s with
  | ret r => exact ⟨rfl, rfl⟩
  | op o k ih => exact ⟨_, _, h o s, ih _ _⟩

/-- Executing is the only run, when every operation is answered in one way. -/
theorem runs_answer_iff {answer : (o : Op) → σ → Resp o × σ} {p : Prog Resp ε α} {s s' : σ}
    {r : Except ε α} : p.Runs (fun o s r s' => answer o s = (r, s')) s r s' ↔ p.run answer s = (r, s') := by
  induction p generalizing s with
  | ret r₀ =>
    rw [runs_ret, run, Prod.mk.injEq, eq_comm, eq_comm (a := s')]
  | op o k ih =>
    rw [runs_op, run]
    constructor
    · rintro ⟨a, s₁, hanswer, hk⟩
      rw [hanswer]
      exact ih a |>.mp hk
    · exact fun h => ⟨_, _, rfl, (ih _).mpr h⟩

/-- Executing a composition executes the first program and then, unless it has raised, the second
one. -/
theorem run_bind (answer : (o : Op) → σ → Resp o × σ) (p : Prog Resp ε α) (f : α → Prog Resp ε β)
    (s : σ) :
    (p >>= f).run answer s = match p.run answer s with
      | (.ok a, s') => (f a).run answer s'
      | (.error e, s') => (.error e, s') := by
  induction p generalizing s with
  | ret r => cases r <;> rfl
  | op o k ih => exact ih _ _

/-- A sequential run of a composition is a run of the first program, followed by a run of the
second one unless the first one raised. -/
theorem runs_bind {p : Prog Resp ε α} {f : α → Prog Resp ε β} {s s' : σ} {r' : Except ε β} :
    (p >>= f).Runs sem s r' s' ↔
      (∃ a s₁, p.Runs sem s (.ok a) s₁ ∧ (f a).Runs sem s₁ r' s') ∨
        (∃ e, p.Runs sem s (.error e) s' ∧ r' = .error e) := by
  induction p generalizing s with
  | ret r =>
    cases r with
    | ok a =>
      simp only [ret_ok_bind, runs_ret]
      constructor
      · exact fun h => .inl ⟨a, s, ⟨rfl, rfl⟩, h⟩
      · rintro (⟨a', s₁, ⟨h, rfl⟩, hf⟩ | ⟨e, ⟨h, -⟩, -⟩)
        · cases h
          exact hf
        · cases h
    | error e =>
      simp only [ret_error_bind, runs_ret]
      constructor
      · rintro ⟨rfl, rfl⟩
        exact .inr ⟨e, ⟨rfl, rfl⟩, rfl⟩
      · rintro (⟨a, s₁, ⟨h, -⟩, -⟩ | ⟨e', ⟨h, rfl⟩, rfl⟩)
        · cases h
        · cases h
          exact ⟨rfl, rfl⟩
  | op o k ih =>
    simp only [op_bind, runs_op, ih]
    constructor
    · rintro ⟨r, s₁, hs, ⟨a, s₂, hp, hf⟩ | ⟨e, hp, rfl⟩⟩
      · exact .inl ⟨a, s₂, ⟨r, s₁, hs, hp⟩, hf⟩
      · exact .inr ⟨e, ⟨r, s₁, hs, hp⟩, rfl⟩
    · rintro (⟨a, s₂, ⟨r, s₁, hs, hp⟩, hf⟩ | ⟨e, ⟨r, s₁, hs, hp⟩, rfl⟩)
      · exact ⟨r, s₁, hs, .inl ⟨a, s₂, hp, hf⟩⟩
      · exact ⟨r, s₁, hs, .inr ⟨e, hp, rfl⟩⟩

/-- A sequential run of a composition that returns. -/
theorem runs_bind_ok {p : Prog Resp ε α} {f : α → Prog Resp ε β} {s s' : σ} {b : β} :
    (p >>= f).Runs sem s (.ok b) s' ↔
      ∃ a s₁, p.Runs sem s (.ok a) s₁ ∧ (f a).Runs sem s₁ (.ok b) s' := by
  rw [runs_bind]
  constructor
  · rintro (h | ⟨e, -, h⟩)
    · exact h
    · cases h
  · exact .inl

theorem runs_lift_ok {x : Except ε α} {s s' : σ} {a : α} :
    (liftM x : Prog Resp ε α).Runs sem s (.ok a) s' ↔ x = .ok a ∧ s' = s := by
  rw [liftM_eq, runs_ret]
  exact and_congr_left fun _ => eq_comm

theorem runs_map_ok {p : Prog Resp ε α} {g : α → β} {s s' : σ} {b : β} :
    (g <$> p).Runs sem s (.ok b) s' ↔ ∃ a, p.Runs sem s (.ok a) s' ∧ g a = b := by
  change (p >>= fun a => pure (g a)).Runs sem s (.ok b) s' ↔ _
  rw [runs_bind_ok]
  constructor
  · rintro ⟨a, s₁, hp, hb, rfl⟩
    exact ⟨a, hp, (Except.ok.inj hb).symm⟩
  · rintro ⟨a, hp, rfl⟩
    exact ⟨a, s', hp, rfl, rfl⟩

/-- Fewer restrictions allow more runs. -/
theorem Runs.mono {sem' : (o : Op) → σ → Resp o → σ → Prop}
    (hsem : ∀ o s r s', sem o s r s' → sem' o s r s') {p : Prog Resp ε α} {s s' : σ}
    {r : Except ε α} (h : p.Runs sem s r s') : p.Runs sem' s r s' := by
  induction p generalizing s with
  | ret r₀ => exact h
  | op o k ih =>
    obtain ⟨a, s₁, hs, hk⟩ := h
    exact ⟨a, s₁, hsem _ _ _ _ hs, ih a hk⟩

/-- A sequential run of one operation. -/
theorem runs_call {Ret : Op → Type} {sem : (o : Op) → σ → Except ε (Ret o) → σ → Prop} {o : Op}
    {s s' : σ} {r : Except ε (Ret o)} : (call o).Runs sem s r s' ↔ sem o s r s' := by
  constructor
  · rintro ⟨a, s₁, hsem, rfl, rfl⟩
    exact hsem
  · exact fun hsem => ⟨r, s', hsem, rfl, rfl⟩

end Runs

/-! ## Interrupted execution -/

/-- The program may end with a result while others act on the state: each of its operations is
performed in some state, whatever has happened since the one before. -/
inductive Ends (sem : (o : Op) → σ → Resp o → σ → Prop) : Prog Resp ε α → Except ε α → Prop
  | ret (r : Except ε α) : Ends sem (.ret r) r
  | op {o : Op} {k : Resp o → Prog Resp ε α} {s s' : σ} {a : Resp o} {r : Except ε α}
      (hsem : sem o s a s') (hk : Ends sem (k a) r) : Ends sem (.op o k) r

section Ends

variable {sem : (o : Op) → σ → Resp o → σ → Prop}

@[simp] theorem ends_ret {r r' : Except ε α} :
    (Prog.ret r : Prog Resp ε α).Ends sem r' ↔ r' = r := by
  constructor
  · rintro ⟨⟩
    rfl
  · rintro rfl
    exact .ret _

@[simp] theorem ends_op {o : Op} {k : Resp o → Prog Resp ε α} {r : Except ε α} :
    (Prog.op o k).Ends sem r ↔ ∃ a, (∃ s s', sem o s a s') ∧ (k a).Ends sem r := by
  constructor
  · rintro ⟨⟩
    exact ⟨_, ⟨_, _, ‹_›⟩, ‹_›⟩
  · rintro ⟨a, ⟨s, s', hsem⟩, hk⟩
    exact .op hsem hk

/-- An interrupted run of a composition goes through the first program and, unless that one raised,
through the second one. -/
theorem ends_bind {p : Prog Resp ε α} {f : α → Prog Resp ε β} {r : Except ε β} :
    (p >>= f).Ends sem r ↔
      (∃ a, p.Ends sem (.ok a) ∧ (f a).Ends sem r) ∨ ∃ e, p.Ends sem (.error e) ∧ r = .error e := by
  induction p with
  | ret x =>
    cases x with
    | ok a => simp
    | error e => simp
  | op o k ih =>
    simp only [op_bind, ends_op, ih]
    constructor
    · rintro ⟨x, hsem, ⟨a, hk, hf⟩ | ⟨e, hk, hr⟩⟩
      · exact .inl ⟨a, ⟨x, hsem, hk⟩, hf⟩
      · exact .inr ⟨e, ⟨x, hsem, hk⟩, hr⟩
    · rintro (⟨a, ⟨x, hsem, hk⟩, hf⟩ | ⟨e, ⟨x, hsem, hk⟩, hr⟩)
      · exact ⟨x, hsem, .inl ⟨a, hk, hf⟩⟩
      · exact ⟨x, hsem, .inr ⟨e, hk, hr⟩⟩

theorem ends_bind_ok {p : Prog Resp ε α} {f : α → Prog Resp ε β} {b : β} :
    (p >>= f).Ends sem (.ok b) ↔ ∃ a, p.Ends sem (.ok a) ∧ (f a).Ends sem (.ok b) := by
  rw [ends_bind]
  constructor
  · rintro (h | ⟨e, -, h⟩)
    · exact h
    · cases h
  · exact .inl

theorem ends_lift_ok {x : Except ε α} {a : α} :
    (liftM x : Prog Resp ε α).Ends sem (.ok a) ↔ x = .ok a := by
  rw [liftM_eq, ends_ret, eq_comm]

theorem ends_call {Ret : Op → Type} {sem : (o : Op) → σ → Except ε (Ret o) → σ → Prop} {o : Op}
    {r : Except ε (Ret o)} : (call o).Ends sem r ↔ ∃ s s', sem o s r s' := by
  rw [call, ends_op]
  constructor
  · rintro ⟨a, hsem, hr⟩
    rwa [ends_ret.mp hr]
  · exact fun hsem => ⟨r, hsem, .ret r⟩

/-- A run without interference is one of the interrupted runs. -/
theorem Runs.ends {p : Prog Resp ε α} {s s' : σ} {r : Except ε α} (h : p.Runs sem s r s') :
    p.Ends sem r := by
  induction p generalizing s with
  | ret r₀ => exact ends_ret.mpr h.1
  | op o k ih =>
    obtain ⟨a, s₁, hsem, hk⟩ := h
    exact .op hsem (ih a hk)

end Ends

/-! ## The operations a program may issue -/

/-- Every operation that the program may issue, whatever the answers, satisfies `P`. -/
def Ops (P : Op → Prop) : Prog Resp ε α → Prop
  | .ret _ => True
  | .op o k => P o ∧ ∀ r, Ops P (k r)

section Ops

variable {P : Op → Prop}

@[simp] theorem ops_ret (r : Except ε α) : (Prog.ret r : Prog Resp ε α).Ops P := trivial

theorem ops_pure (a : α) : (pure a : Prog Resp ε α).Ops P := trivial

theorem ops_liftM (x : Except ε α) : (liftM x : Prog Resp ε α).Ops P := trivial

@[simp] theorem ops_op {o : Op} {k : Resp o → Prog Resp ε α} :
    (Prog.op o k).Ops P ↔ P o ∧ ∀ r, (k r).Ops P := Iff.rfl

theorem ops_call {Ret : Op → Type} {o : Op} :
    (call o : Prog (fun o => Except ε (Ret o)) ε (Ret o)).Ops P ↔ P o := by
  simp [call]

/-- The operations of a composition are those of its parts. -/
theorem Ops.bind {p : Prog Resp ε α} {f : α → Prog Resp ε β} (hp : p.Ops P)
    (hf : ∀ a, (f a).Ops P) : (p >>= f).Ops P := by
  induction p with
  | ret r =>
    cases r with
    | ok a => exact hf a
    | error e => trivial
  | op o k ih => exact ⟨hp.1, fun r => ih r (hp.2 r)⟩

/-- A computation before a program. -/
theorem Ops.lift {x : Except ε α} {f : α → Prog Resp ε β} (hf : ∀ a, x = .ok a → (f a).Ops P) :
    (Prog.ret x >>= f).Ops P := by
  cases x with
  | ok a => exact hf a rfl
  | error e => trivial

theorem Ops.mono {Q : Op → Prop} (h : ∀ o, P o → Q o) {p : Prog Resp ε α} (hp : p.Ops P) :
    p.Ops Q := by
  induction p with
  | ret r => trivial
  | op o k ih => exact ⟨h o hp.1, fun r => ih r (hp.2 r)⟩

theorem Ops.outcome {p : Prog Resp ε α} (hp : p.Ops P) : p.outcome.Ops P := by
  induction p with
  | ret r => trivial
  | op o k ih => exact ⟨hp.1, fun r => ih r (hp.2 r)⟩

/-- When operations are answered in a fixed way, the result of a program is the one that these
answers lead to. -/
theorem Runs.result_eq {f : (o : Op) → Resp o} {sem : (o : Op) → σ → Resp o → σ → Prop}
    (hf : ∀ o s r s', P o → sem o s r s' → r = f o) {p : Prog Resp ε α} (hp : p.Ops P) {s s' : σ}
    {r : Except ε α} (h : p.Runs sem s r s') :
    r = (p.run (fun o (u : Unit) => (f o, u)) ()).1 := by
  induction p generalizing s with
  | ret r₀ => exact h.1
  | op o k ih =>
    obtain ⟨a, s₁, hsem, hk⟩ := h
    obtain rfl := hf o s a s₁ hp.1 hsem
    exact ih _ (hp.2 _) hk

/-- When the operations of a program keep `J`, and `J` implies the guard, the runs of the program are
guarded runs. -/
theorem Runs.guarded {J : σ → Prop} {guard : Op → σ → Prop}
    {sem : (o : Op) → σ → Resp o → σ → Prop}
    (hJ : ∀ o s r s', P o → J s → sem o s r s' → J s') (hguard : ∀ o s, J s → guard o s)
    {p : Prog Resp ε α} (hp : p.Ops P) {s s' : σ} {r : Except ε α} (hs : J s)
    (h : p.Runs sem s r s') :
    p.Runs (fun o s r s' => guard o s ∧ sem o s r s') s r s' ∧ J s' := by
  induction p generalizing s with
  | ret r₀ =>
    obtain ⟨rfl, rfl⟩ := h
    exact ⟨⟨rfl, rfl⟩, hs⟩
  | op o k ih =>
    obtain ⟨a, s₁, hsem, hk⟩ := h
    obtain ⟨hrun, hs'⟩ := ih a (hp.2 a) (hJ _ _ _ _ hp.1 hs hsem) hk
    exact ⟨⟨a, s₁, ⟨hguard _ _ hs, hsem⟩, hrun⟩, hs'⟩

/-- What the operations of a program keep, executing the program keeps. -/
theorem Ops.run {answer : (o : Op) → σ → Resp o × σ} {J : σ → Prop}
    (hJ : ∀ o s, P o → J s → J (answer o s).2) {p : Prog Resp ε α} (hp : p.Ops P) {s : σ} (hs : J s) :
    J (p.run answer s).2 := by
  induction p generalizing s with
  | ret r => exact hs
  | op o k ih => exact ih _ (hp.2 _) (hJ o s hp.1 hs)

/-- A run whose operations leave a part of the state alone leaves it alone. -/
theorem Runs.part_eq {τ : Type} {part : σ → τ} {sem : (o : Op) → σ → Resp o → σ → Prop}
    (hpart : ∀ o s r s', P o → sem o s r s' → part s' = part s) {p : Prog Resp ε α} (hp : p.Ops P)
    {s s' : σ} {r : Except ε α} (h : p.Runs sem s r s') : part s' = part s := by
  induction p generalizing s with
  | ret r₀ => rw [h.2]
  | op o k ih =>
    obtain ⟨a, s₁, hsem, hk⟩ := h
    exact (ih a (hp.2 a) hk).trans (hpart _ _ _ _ hp.1 hsem)

end Ops

/-! ## The results a program may return -/

/-- Whatever the operations answer, a value that the program returns satisfies `Q`. -/
def Returns (Q : α → Prop) : Prog Resp ε α → Prop
  | .ret (.ok a) => Q a
  | .ret (.error _) => True
  | .op _ k => ∀ r, Returns Q (k r)

section Returns

variable {Q : α → Prop}

theorem Returns.bind {p : Prog Resp ε β} {f : β → Prog Resp ε α} (hf : ∀ b, (f b).Returns Q) :
    (p >>= f).Returns Q := by
  induction p with
  | ret r =>
    cases r with
    | ok b => exact hf b
    | error e => trivial
  | op o k ih => exact fun r => ih r

theorem Returns.lift {x : Except ε β} {f : β → Prog Resp ε α}
    (hf : ∀ b, x = .ok b → (f b).Returns Q) : (liftM x >>= f : Prog Resp ε α).Returns Q := by
  cases x with
  | ok b => exact hf b rfl
  | error e => trivial

theorem Returns.map {R : β → Prop} {p : Prog Resp ε α} {g : α → β} (h : ∀ a, Q a → R (g a))
    (hp : p.Returns Q) : (g <$> p).Returns R := by
  induction p with
  | ret r =>
    cases r with
    | ok a => exact h a hp
    | error e => trivial
  | op o k ih => exact fun r => ih r (hp r)

end Returns

/-! ## Programs that commit last -/

/-- Only the last operation of the program may change the state: every operation before it satisfies
`Read`, and after an answer to an operation that does not, the call ends at once.  It then returns
normally, unless the answer is one of those that `Refused` counts as a refusal. -/
def CommitLast (Read : Op → Prop) (Refused : (o : Op) → Resp o → Prop) : Prog Resp ε α → Prop
  | .ret _ => True
  | .op o k => (Read o ∧ ∀ r, CommitLast Read Refused (k r)) ∨
      ∀ r, ∃ res, k r = .ret res ∧ (∀ e, res = .error e → Refused o r)

section CommitLast

variable {Read : Op → Prop} {Refused : (o : Op) → Resp o → Prop}

@[simp] theorem commitLast_ret (r : Except ε α) :
    (Prog.ret r : Prog Resp ε α).CommitLast Read Refused := trivial

/-- A prefix of reads keeps the shape. -/
theorem CommitLast.read {o : Op} {k : Resp o → Prog Resp ε α} (ho : Read o)
    (hk : ∀ r, (k r).CommitLast Read Refused) : (Prog.op o k).CommitLast Read Refused :=
  .inl ⟨ho, hk⟩

/-- A program of reads may stand before a program that commits last. -/
theorem CommitLast.bind {p : Prog Resp ε α} {f : α → Prog Resp ε β} (hp : p.Ops Read)
    (hf : ∀ a, (f a).CommitLast Read Refused) : (p >>= f).CommitLast Read Refused := by
  induction p with
  | ret r =>
    cases r with
    | ok a => exact hf a
    | error e => trivial
  | op o k ih => exact .inl ⟨hp.1, fun r => ih r (hp.2 r)⟩

/-- Rewriting the result keeps the shape. -/
theorem CommitLast.map {p : Prog Resp ε α} (f : α → β) (hp : p.CommitLast Read Refused) :
    (f <$> p).CommitLast Read Refused := by
  induction p with
  | ret r => cases r <;> trivial
  | op o k ih =>
    rcases hp with ⟨ho, hp⟩ | hp
    · exact .inl ⟨ho, fun r => ih r (hp r)⟩
    · refine .inr fun r => ?_
      obtain ⟨res, hres, hr⟩ := hp r
      cases res with
      | ok a => exact ⟨.ok (f a), congrArg (Functor.map f) hres, nofun⟩
      | error e =>
        exact ⟨.error e, congrArg (Functor.map f) hres, fun _ _ => hr e rfl⟩

/-- A program that ends with one operation, whose exceptions are refusals. -/
theorem commitLast_call {Ret : Op → Type} {Read : Op → Prop} (o : Op) (f : Ret o → α) :
    (call o >>= fun a => (pure (f a) : Prog (fun o => Except ε (Ret o)) ε α)).CommitLast Read
      fun _ r => ∃ e, r = .error e := by
  refine .inr fun r => ?_
  cases r with
  | ok a => exact ⟨.ok (f a), rfl, nofun⟩
  | error e => exact ⟨.error e, rfl, fun _ _ => ⟨e, rfl⟩⟩

/-- A call that commits last and raises leaves a part of the state as it found it, as long as reads
and refused operations leave that part alone. -/
theorem CommitLast.unchanged_of_error {τ : Type} (part : σ → τ)
    {sem : (o : Op) → σ → Resp o → σ → Prop}
    (hread : ∀ o s r s', Read o → sem o s r s' → part s' = part s)
    (hrefused : ∀ o s r s', Refused o r → sem o s r s' → part s' = part s)
    {p : Prog Resp ε α} (hp : p.CommitLast Read Refused) {s s' : σ} {e : ε}
    (h : p.Runs sem s (.error e) s') : part s' = part s := by
  induction p generalizing s with
  | ret r => exact congrArg part h.2
  | op o k ih =>
    obtain ⟨r, s₁, hs, hk⟩ := h
    rcases hp with ⟨ho, hp⟩ | hp
    · exact (ih r (hp r) hk).trans (hread o s r s₁ ho hs)
    · obtain ⟨res, hres, hr⟩ := hp r
      rw [hres] at hk
      exact (congrArg part hk.2).trans (hrefused o s r s₁ (hr e hk.1.symm) hs)

end CommitLast

-- from here on, `Ops` is taken apart by its rules and never by evaluating the program
attribute [irreducible] Ops

end Prog

end Concurrent
