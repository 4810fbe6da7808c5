import Mathlib.Algebra.Order.BigOperators.Group.Finset
import Mathlib.Data.Finset.Range
import RailOneCore.Library.Program

/-!
# Interleaved calls and a rely-guarantee rule

A `System` runs any number of calls at once over one shared state.  A configuration is the state and
the list of the calls started so far, each with the rest of its program; a step starts a new call or
lets one call perform its next operation.  A call that crashes is a call that is never scheduled
again, so crashes need no step of their own.

The rule for reasoning about such systems is rely-guarantee with counted permissions.  A `Protocol`
fixes an invariant, the interference a call must tolerate, and a number `avail` of permissions that
the state has handed out.  `Safe` is the weakest precondition of a program under that protocol: each
of its operations keeps the invariant, has an effect allowed by the guarantee `G`, and accounts for
the permissions it creates or uses up.  `Protocol.Holds` is the resulting invariant of
configurations, and `System.holds_of_steps` the induction over runs.
-/

namespace Concurrent

variable {Op Call : Type} {Resp : Op → Type} {ε α σ : Type}

/-- A started call, with what is left of its program. -/
structure Thread {Op : Type} (Resp : Op → Type) (Call ε α : Type) where
  /-- The call, with its arguments. -/
  call : Call
  /-- The rest of its program. -/
  prog : Prog Resp ε α

/-- The shared state and the calls started so far, in the order of their starts.  Calls that have
ended stay in the list, with their results. -/
structure Config {Op : Type} (Resp : Op → Type) (Call ε α σ : Type) where
  state : σ
  threads : List (Thread Resp Call ε α)

/-- Calls over a shared state: their programs, and what the operations do. -/
structure System {Op : Type} (Resp : Op → Type) (Call ε α σ : Type) where
  /-- The program of a call. -/
  body : Call → Prog Resp ε α
  /-- What an operation issued by a call may answer and do. -/
  sem : Call → (o : Op) → σ → Resp o → σ → Prop

namespace System

variable (S : System Resp Call ε α σ)

/-- The `i`-th call performs its next operation, which is `o`. -/
def Performs (i : ℕ) (c : Call) (o : Op) (x y : Config Resp Call ε α σ) : Prop :=
  ∃ k r, x.threads[i]? = some ⟨c, .op o k⟩ ∧ S.sem c o x.state r y.state ∧
    y.threads = x.threads.set i ⟨c, k r⟩

/-- One step of the system: a call is started, or a started call performs its next operation. -/
inductive Step (x : Config Resp Call ε α σ) : Config Resp Call ε α σ → Prop
  | spawn (c : Call) : Step x ⟨x.state, x.threads ++ [⟨c, S.body c⟩]⟩
  | perform {y : Config Resp Call ε α σ} (i : ℕ) (c : Call) (o : Op) (h : S.Performs i c o x y) :
      Step x y

/-- Any number of steps. -/
def Steps : Config Resp Call ε α σ → Config Resp Call ε α σ → Prop :=
  Relation.ReflTransGen S.Step

/-- The configurations that the system reaches from the state `s₀`, with no call started yet. -/
def Reachable (s₀ : σ) (x : Config Resp Call ε α σ) : Prop := S.Steps ⟨s₀, []⟩ x

/-- Started calls stay: no step forgets one. -/
theorem call_mem_of_step {x y : Config Resp Call ε α σ} (h : S.Step x y) {c : Call}
    (hc : ∃ t ∈ x.threads, t.call = c) : ∃ t ∈ y.threads, t.call = c := by
  obtain ⟨t, ht, rfl⟩ := hc
  cases h with
  | spawn c => exact ⟨t, List.mem_append_left _ ht, rfl⟩
  | perform i c o h =>
    obtain ⟨k, r, hi, -, hthreads⟩ := h
    obtain ⟨j, hj⟩ := List.mem_iff_getElem?.mp ht
    rw [hthreads]
    by_cases hij : i = j
    · subst hij
      rw [hi, Option.some.injEq] at hj
      subst hj
      have hlt := (List.getElem?_eq_some_iff.mp hi).1
      exact ⟨⟨c, k r⟩, List.mem_iff_getElem?.mpr ⟨i, by rw [List.getElem?_set_self hlt]⟩, rfl⟩
    · exact ⟨t, List.mem_iff_getElem?.mpr ⟨j, by rw [List.getElem?_set_ne hij]; exact hj⟩, rfl⟩

theorem call_mem_of_steps {x y : Config Resp Call ε α σ} (h : S.Steps x y) {c : Call}
    (hc : ∃ t ∈ x.threads, t.call = c) : ∃ t ∈ y.threads, t.call = c := by
  induction h with
  | refl => exact hc
  | tail _ hstep ih => exact S.call_mem_of_step hstep ih

/-- A performed operation, with the states before and after it. -/
structure Event (Call Op σ : Type) where
  call : Call
  op : Op
  before : σ
  after : σ

/-- A run with the operations it performed. -/
inductive Trace (x : Config Resp Call ε α σ) :
    List (Event Call Op σ) → Config Resp Call ε α σ → Prop
  | nil : Trace x [] x
  | spawn {l : List (Event Call Op σ)} {y : Config Resp Call ε α σ} (h : Trace x l y) (c : Call) :
      Trace x l ⟨y.state, y.threads ++ [⟨c, S.body c⟩]⟩
  | perform {l : List (Event Call Op σ)} {y z : Config Resp Call ε α σ} (h : Trace x l y) {i : ℕ}
      {c : Call} {o : Op} (hp : S.Performs i c o y z) :
      Trace x (l ++ [⟨c, o, y.state, z.state⟩]) z

theorem steps_of_trace {x y : Config Resp Call ε α σ} {l : List (Event Call Op σ)}
    (h : S.Trace x l y) : S.Steps x y := by
  induction h with
  | nil => exact .refl
  | spawn _ c ih => exact ih.tail (.spawn c)
  | perform _ hp ih => exact ih.tail (.perform _ _ _ hp)

/-- Calls that satisfy `A`, executed one after another without interference. -/
inductive Sequentially (A : Call → Prop) (s : σ) : σ → Prop
  | nil : Sequentially A s s
  | call {s₁ s₂ : σ} (h : Sequentially A s s₁) (c : Call) (r : Except ε α) (hc : A c)
      (hr : (S.body c).Runs (S.sem c) s₁ r s₂) : Sequentially A s s₂

/-- The same calls, restricted to the operations that satisfy `guard` when they are performed. -/
def guarded (guard : Call → Op → σ → Prop) : System Resp Call ε α σ where
  body := S.body
  sem c o s r s' := guard c o s ∧ S.sem c o s r s'

/-- An entry of a log: a call performed an operation and got an answer. -/
structure Entry {Op : Type} (Resp : Op → Type) (Call : Type) where
  call : Call
  op : Op
  answer : Resp op

/-- The same calls, with a log of the operations and of their answers beside the state. -/
def logged : System Resp Call ε α (σ × List (Entry Resp Call)) where
  body := S.body
  sem c o s r s' := S.sem c o s.1 r s'.1 ∧ s'.2 = s.2 ++ [⟨c, o, r⟩]

theorem step_of_guarded {guard : Call → Op → σ → Prop} {x y : Config Resp Call ε α σ}
    (h : (S.guarded guard).Step x y) : S.Step x y := by
  cases h with
  | spawn c => exact .spawn c
  | perform i c o h =>
    obtain ⟨k, r, hi, hsem, ht⟩ := h
    exact .perform i c o ⟨k, r, hi, hsem.2, ht⟩

/-- Every run of the restricted system is a run of the system. -/
theorem steps_of_guarded {guard : Call → Op → σ → Prop} {x y : Config Resp Call ε α σ}
    (h : (S.guarded guard).Steps x y) : S.Steps x y := by
  induction h with
  | refl => exact .refl
  | tail _ hstep ih => exact ih.tail (S.step_of_guarded hstep)

/-- A weaker restriction allows more runs. -/
theorem steps_guarded_mono {guard guard' : Call → Op → σ → Prop}
    (hguard : ∀ c o s, guard c o s → guard' c o s) {x y : Config Resp Call ε α σ}
    (h : (S.guarded guard).Steps x y) : (S.guarded guard').Steps x y := by
  induction h with
  | refl => exact .refl
  | tail _ hstep ih =>
    refine ih.tail ?_
    cases hstep with
    | spawn c => exact .spawn c
    | perform i c o h =>
      obtain ⟨k, r, hi, hsem, ht⟩ := h
      exact .perform i c o ⟨k, r, hi, ⟨hguard _ _ _ hsem.1, hsem.2⟩, ht⟩

/-- A restriction that restricts nothing. -/
theorem steps_guarded_of_forall {guard : Call → Op → σ → Prop} (hguard : ∀ c o s, guard c o s)
    {x y : Config Resp Call ε α σ} (h : S.Steps x y) : (S.guarded guard).Steps x y := by
  induction h with
  | refl => exact .refl
  | tail _ hstep ih =>
    refine ih.tail ?_
    cases hstep with
    | spawn c => exact .spawn c
    | perform i c o h =>
      obtain ⟨k, r, hi, hsem, ht⟩ := h
      exact .perform i c o ⟨k, r, hi, ⟨hguard _ _ _, hsem⟩, ht⟩

/-- A run all of whose calls satisfy `A`. -/
theorem steps_guarded_of_calls {A : Call → Prop} {x y : Config Resp Call ε α σ}
    (hcalls : ∀ t ∈ y.threads, A t.call) (h : S.Steps x y) :
    (S.guarded fun c _ _ => A c).Steps x y := by
  induction h with
  | refl => exact .refl
  | tail _ hstep ih =>
    have hprior := ih fun t ht => by
      obtain ⟨t', ht', heq⟩ := S.call_mem_of_step hstep ⟨t, ht, rfl⟩
      exact heq ▸ hcalls t' ht'
    refine hprior.tail ?_
    cases hstep with
    | spawn c => exact .spawn c
    | perform i c o hp =>
      obtain ⟨k, r, hi, hsem, ht⟩ := id hp
      obtain ⟨t, hmem, heq⟩ :=
        S.call_mem_of_step (.perform i c o hp) ⟨_, List.mem_of_getElem? hi, rfl⟩
      have hc : A c := by
        have ht := hcalls t hmem
        rwa [heq] at ht
      exact .perform i c o ⟨k, r, hi, ⟨hc, hsem⟩, ht⟩

/-- However calls interleave, what is left of a call can only end as the call itself may end. -/
theorem ends_of_steps {x y : Config Resp Call ε α σ}
    (hx : ∀ t ∈ x.threads, ∀ r, t.prog.Ends (S.sem t.call) r → (S.body t.call).Ends (S.sem t.call) r)
    (h : S.Steps x y) :
    ∀ t ∈ y.threads, ∀ r, t.prog.Ends (S.sem t.call) r → (S.body t.call).Ends (S.sem t.call) r := by
  induction h with
  | refl => exact hx
  | tail _ hstep ih =>
    cases hstep with
    | spawn c =>
      intro t ht r hr
      rcases List.mem_append.mp ht with ht | ht
      · exact ih t ht r hr
      · rw [List.mem_singleton] at ht
        subst ht
        exact hr
    | perform i c o hp =>
      obtain ⟨k, a, hi, hsem, hthreads⟩ := hp
      intro t ht r hr
      rw [hthreads] at ht
      rcases List.mem_or_eq_of_mem_set ht with ht | rfl
      · exact ih t ht r hr
      · exact ih _ (List.mem_of_getElem? hi) r (Prog.ends_op.mpr ⟨a, ⟨_, _, hsem⟩, hr⟩)

/-- The result of a call in a run of the system. -/
theorem ends_of_reachable {s₀ : σ} {x : Config Resp Call ε α σ} (h : S.Reachable s₀ x) {c : Call}
    {r : Except ε α} (ht : ⟨c, .ret r⟩ ∈ x.threads) : (S.body c).Ends (S.sem c) r :=
  S.ends_of_steps (by simp) h _ ht r (Prog.ends_ret.mpr rfl)

/-- A call that runs to its end without interference takes steps of the system. -/
theorem steps_of_runs {c : Call} {p : Prog Resp ε α} {s s' : σ} {r : Except ε α}
    (l : List (Thread Resp Call ε α)) (h : p.Runs (S.sem c) s r s') :
    S.Steps ⟨s, l ++ [⟨c, p⟩]⟩ ⟨s', l ++ [⟨c, .ret r⟩]⟩ := by
  induction p generalizing s with
  | ret r₀ =>
    obtain ⟨rfl, rfl⟩ := h
    exact .refl
  | op o k ih =>
    obtain ⟨a, s₁, hsem, hk⟩ := h
    have hp : S.Performs l.length c o ⟨s, l ++ [⟨c, .op o k⟩]⟩ ⟨s₁, l ++ [⟨c, k a⟩]⟩ :=
      ⟨k, a, by simp, hsem, by simp⟩
    exact .head (.perform _ _ _ hp) (ih a hk)

/-- A call that has ended stays as it is. -/
theorem ret_of_steps {x y : Config Resp Call ε α σ} {i : ℕ} {c : Call} {r : Except ε α}
    (hx : x.threads[i]? = some ⟨c, .ret r⟩) (h : S.Steps x y) : y.threads[i]? = some ⟨c, .ret r⟩ := by
  induction h with
  | refl => exact hx
  | tail _ hstep ih =>
    cases hstep with
    | spawn c' =>
      have hlt := (List.getElem?_eq_some_iff.mp ih).1
      rw [List.getElem?_append_left hlt]
      exact ih
    | perform j c' o hp =>
      obtain ⟨k, a, hj, -, hthreads⟩ := hp
      have hne : j ≠ i := by
        rintro rfl
        rw [ih] at hj
        cases hj
      rw [hthreads, List.getElem?_set_ne hne]
      exact ih

/-- When calls commit last, so does what is left of them. -/
theorem commitLast_of_reachable {Read : Op → Prop} {Refused : (o : Op) → Resp o → Prop}
    (hbody : ∀ c, (S.body c).CommitLast Read Refused) {s₀ : σ} {x : Config Resp Call ε α σ}
    (h : S.Reachable s₀ x) : ∀ t ∈ x.threads, t.prog.CommitLast Read Refused := by
  induction h with
  | refl => nofun
  | tail _ hstep ih =>
    cases hstep with
    | spawn c =>
      intro t ht
      rcases List.mem_append.mp ht with ht | ht
      · exact ih t ht
      · rw [List.mem_singleton] at ht
        subst ht
        exact hbody c
    | perform i c o hp =>
      obtain ⟨k, a, hi, -, hthreads⟩ := hp
      intro t ht
      rw [hthreads] at ht
      rcases List.mem_or_eq_of_mem_set ht with ht | rfl
      · exact ih t ht
      · rcases ih _ (List.mem_of_getElem? hi) with ⟨-, hk⟩ | hk
        · exact hk a
        · obtain ⟨res, hres, -⟩ := hk a
          exact hres ▸ Prog.commitLast_ret res

/-- When calls commit last, a call that raises in the end has left the state alone, at each of its
operations. -/
theorem unchanged_of_raised {Read : Op → Prop} {Refused : (o : Op) → Resp o → Prop}
    (hbody : ∀ c, (S.body c).CommitLast Read Refused)
    (hread : ∀ c o s r s', Read o → S.sem c o s r s' → s' = s)
    (hrefused : ∀ c o s r s', Refused o r → S.sem c o s r s' → s' = s) {s₀ : σ}
    {x y z : Config Resp Call ε α σ} {i : ℕ} {c : Call} {o : Op} {e : ε} (hx : S.Reachable s₀ x)
    (hp : S.Performs i c o x y) (hz : S.Steps y z)
    (hraised : z.threads[i]? = some ⟨c, .ret (.error e)⟩) : y.state = x.state := by
  obtain ⟨k, a, hi, hsem, hthreads⟩ := hp
  rcases S.commitLast_of_reachable hbody hx _ (List.mem_of_getElem? hi) with ⟨ho, -⟩ | hk
  · exact hread c o _ a _ ho hsem
  · obtain ⟨res, hres, herror⟩ := hk a
    have hlt := (List.getElem?_eq_some_iff.mp hi).1
    have hended : y.threads[i]? = some ⟨c, .ret res⟩ := by
      rw [hthreads, List.getElem?_set_self hlt, hres]
    have hfinal := hraised.symm.trans (S.ret_of_steps hended hz)
    have heq : res = .error e := by
      cases hfinal
      rfl
    exact hrefused c o _ a _ (herror e heq) hsem

/-- Calls executed one after another are a run of the system. -/
theorem reachable_of_sequentially {A : Call → Prop} {s s' : σ} (h : S.Sequentially A s s') :
    ∃ x, S.Reachable s x ∧ x.state = s' ∧ ∀ t ∈ x.threads, A t.call := by
  induction h with
  | nil => exact ⟨⟨s, []⟩, .refl, rfl, by simp⟩
  | call _ c r hc hr ih =>
    obtain ⟨x, hx, rfl, hcalls⟩ := ih
    refine ⟨_, (hx.tail (.spawn c)).trans (S.steps_of_runs x.threads hr), rfl, ?_⟩
    intro t ht
    rcases List.mem_append.mp ht with ht | ht
    · exact hcalls t ht
    · rw [List.mem_singleton] at ht
      rw [ht]
      exact hc

/-- When all calls of a run issue only operations that keep `J`, the run stays in `J`, and so is
restricted to the operations that `J` allows. -/
theorem steps_guarded_of_ops {J : σ → Prop} {P : Op → Prop} {guard : Call → Op → σ → Prop}
    (hJ : ∀ c o s r s', P o → J s → S.sem c o s r s' → J s')
    (hguard : ∀ c o s, J s → guard c o s) {x y : Config Resp Call ε α σ} (hx : J x.state)
    (hthreads : ∀ t ∈ x.threads, t.prog.Ops P) (hbody : ∀ t ∈ y.threads, (S.body t.call).Ops P)
    (h : S.Steps x y) :
    (S.guarded guard).Steps x y ∧ J y.state ∧ ∀ t ∈ y.threads, t.prog.Ops P := by
  induction h with
  | refl => exact ⟨.refl, hx, hthreads⟩
  | tail _ hstep ih =>
    obtain ⟨hsteps, hy, hprogs⟩ := ih fun t ht => by
      obtain ⟨t', ht', heq⟩ := S.call_mem_of_step hstep ⟨t, ht, rfl⟩
      exact heq ▸ hbody t' ht'
    cases hstep with
    | spawn c =>
      refine ⟨hsteps.tail (.spawn c), hy, fun t ht => ?_⟩
      rcases List.mem_append.mp ht with ht | ht
      · exact hprogs t ht
      · have hc := hbody t (List.mem_append_right _ ht)
        rw [List.mem_singleton] at ht
        subst ht
        exact hc
    | perform i c o hp =>
      obtain ⟨k, r, hi, hsem, ht⟩ := hp
      have hprog := hprogs _ (List.mem_of_getElem? hi)
      refine ⟨hsteps.tail (.perform i c o ⟨k, r, hi, ⟨hguard _ _ _ hy, hsem⟩, ht⟩),
        hJ _ _ _ _ _ (Prog.ops_op.mp hprog).1 hy hsem, fun t htz => ?_⟩
      rw [ht] at htz
      rcases List.mem_or_eq_of_mem_set htz with htz | rfl
      · exact hprogs t htz
      · exact (Prog.ops_op.mp hprog).2 r

end System

/-! ## Rely-guarantee with counted permissions -/

/-- What the calls of a system agree on. -/
structure Protocol (σ : Type) where
  /-- The invariant of the shared state. -/
  Inv : σ → Prop
  /-- The changes that other calls may make between two operations of a call. -/
  Rely : σ → σ → Prop
  /-- The number of permissions that are out in a state. -/
  avail : σ → ℕ
  rely_refl : ∀ s, Rely s s
  rely_trans : ∀ s₁ s₂ s₃, Rely s₁ s₂ → Rely s₂ s₃ → Rely s₁ s₃

/-- The program, holding `n` permissions and last scheduled in `s`, respects the protocol: whatever
the others do in between, each of its operations keeps the invariant, has an effect that `G` allows
and accounts for permissions, and its result satisfies `Q`. -/
def Safe (P : Protocol σ) (sem : (o : Op) → σ → Resp o → σ → Prop) (G : Op → σ → σ → Prop)
    (Q : ℕ → Except ε α → σ → Prop) : Prog Resp ε α → ℕ → σ → Prop
  | .ret r, n, s => ∀ s₁, P.Rely s s₁ → P.Inv s₁ → Q n r s₁
  | .op o k, n, s => ∀ s₁, P.Rely s s₁ → P.Inv s₁ → n ≤ P.avail s₁ → ∀ r s₂, sem o s₁ r s₂ →
      P.Inv s₂ ∧ G o s₁ s₂ ∧ ∃ n', P.avail s₁ + n' = P.avail s₂ + n ∧ Safe P sem G Q (k r) n' s₂

section Safe

variable {P : Protocol σ} {sem : (o : Op) → σ → Resp o → σ → Prop} {G : Op → σ → σ → Prop}
  {Q : ℕ → Except ε α → σ → Prop}

@[simp] theorem safe_ret {r : Except ε α} {n : ℕ} {s : σ} :
    Safe P sem G Q (.ret r : Prog Resp ε α) n s ↔ ∀ s₁, P.Rely s s₁ → P.Inv s₁ → Q n r s₁ :=
  Iff.rfl

theorem safe_op {o : Op} {k : Resp o → Prog Resp ε α} {n : ℕ} {s : σ} :
    Safe P sem G Q (.op o k) n s ↔ ∀ s₁, P.Rely s s₁ → P.Inv s₁ → n ≤ P.avail s₁ → ∀ r s₂,
      sem o s₁ r s₂ → P.Inv s₂ ∧ G o s₁ s₂ ∧ ∃ n', P.avail s₁ + n' = P.avail s₂ + n ∧
        Safe P sem G Q (k r) n' s₂ :=
  Iff.rfl

/-- The weakest precondition is stable under interference. -/
theorem Safe.rely {p : Prog Resp ε α} {n : ℕ} {s s' : σ} (h : Safe P sem G Q p n s)
    (hs : P.Rely s s') : Safe P sem G Q p n s' := by
  cases p with
  | ret r => exact fun s₁ h₁ => h s₁ (P.rely_trans _ _ _ hs h₁)
  | op o k => exact fun s₁ h₁ => h s₁ (P.rely_trans _ _ _ hs h₁)

/-- A weaker guarantee and a weaker postcondition are easier to meet. -/
theorem Safe.mono {G' : Op → σ → σ → Prop} {Q' : ℕ → Except ε α → σ → Prop}
    (hG : ∀ o s s', G o s s' → G' o s s') (hQ : ∀ n r s, Q n r s → Q' n r s)
    {p : Prog Resp ε α} {n : ℕ} {s : σ} (h : Safe P sem G Q p n s) :
    Safe P sem G' Q' p n s := by
  induction p generalizing n s with
  | ret r => exact fun s₁ h₁ hi => hQ _ _ _ (h s₁ h₁ hi)
  | op o k ih =>
    intro s₁ h₁ hi hn r s₂ hs
    obtain ⟨hi₂, hg, n', hn', hk⟩ := h s₁ h₁ hi hn r s₂ hs
    exact ⟨hi₂, hG _ _ _ hg, n', hn', ih r hk⟩

/-- A program whose operations neither disturb the invariant nor touch permissions is safe. -/
theorem Safe.of_ops {A : Op → Prop}
    (hA : ∀ o s r s', A o → P.Inv s → sem o s r s' →
      P.Inv s' ∧ G o s s' ∧ P.avail s' = P.avail s)
    (hQ : ∀ r s, Q 0 r s) {p : Prog Resp ε α} (hp : p.Ops A) (s : σ) : Safe P sem G Q p 0 s := by
  induction p generalizing s with
  | ret r => exact fun s₁ _ _ => hQ r s₁
  | op o k ih =>
    intro s₁ _ hi _ r s₂ hs
    obtain ⟨hi₂, hg, ha⟩ := hA o s₁ r s₂ (Prog.ops_op.mp hp).1 hi hs
    exact ⟨hi₂, hg, 0, by rw [ha], ih r ((Prog.ops_op.mp hp).2 r) s₂⟩

/-- Sequencing: the first program establishes what the second one starts from. -/
theorem Safe.bind {β : Type} {Q' : ℕ → Except ε β → σ → Prop} {p : Prog Resp ε β}
    {f : β → Prog Resp ε α} {n : ℕ} {s : σ} (hG : ∀ o s s', G o s s' → P.Rely s s')
    (hp : Safe P sem G Q' p n s) (hinv : P.Inv s)
    (hok : ∀ n a s', P.Rely s s' → P.Inv s' → Q' n (.ok a) s' → Safe P sem G Q (f a) n s')
    (herr : ∀ n e s', P.Rely s s' → P.Inv s' → Q' n (.error e) s' → Q n (.error e) s') :
    Safe P sem G Q (p >>= f) n s := by
  induction p generalizing n s with
  | ret r =>
    cases r with
    | ok a => exact hok n a s (P.rely_refl s) hinv (hp s (P.rely_refl s) hinv)
    | error e => exact fun s₁ h₁ hi => herr n e s₁ h₁ hi (hp s₁ h₁ hi)
  | op o k ih =>
    intro s₁ h₁ hi hn r s₂ hs
    obtain ⟨hi₂, hg, n', hn', hk⟩ := hp s₁ h₁ hi hn r s₂ hs
    have hlater : ∀ s', P.Rely s₂ s' → P.Rely s s' := fun s' h' =>
      P.rely_trans _ _ _ h₁ (P.rely_trans _ _ _ (hG _ _ _ hg) h')
    exact ⟨hi₂, hg, n', hn', ih r hk hi₂ (fun n a s' h' => hok n a s' (hlater s' h'))
      fun n e s' h' => herr n e s' (hlater s' h')⟩

/-- A first program whose operations disturb nothing, before the rest. -/
theorem Safe.bind_of_ops {β : Type} {A : Op → Prop} {p : Prog Resp ε β} {f : β → Prog Resp ε α}
    {s : σ}
    (hA : ∀ o s r s', A o → P.Inv s → sem o s r s' →
      P.Inv s' ∧ P.Rely s s' ∧ G o s s' ∧ P.avail s' = P.avail s)
    (hp : p.Ops A) (hinv : P.Inv s)
    (hok : ∀ a s', P.Rely s s' → P.Inv s' → Safe P sem G Q (f a) 0 s')
    (herr : ∀ e s', P.Rely s s' → P.Inv s' → Q 0 (.error e) s') :
    Safe P sem G Q (p >>= f) 0 s := by
  induction p generalizing s with
  | ret r =>
    cases r with
    | ok a => exact hok a s (P.rely_refl s) hinv
    | error e => exact fun s₁ h₁ hi => herr e s₁ h₁ hi
  | op o k ih =>
    intro s₁ h₁ hi _ r s₂ hs
    obtain ⟨hi₂, hr, hg, ha⟩ := hA o s₁ r s₂ (Prog.ops_op.mp hp).1 hi hs
    have hlater : ∀ s', P.Rely s₂ s' → P.Rely s s' := fun s' h' =>
      P.rely_trans _ _ _ h₁ (P.rely_trans _ _ _ hr h')
    exact ⟨hi₂, hg, 0, by rw [ha], ih r ((Prog.ops_op.mp hp).2 r) hi₂ (fun a s' h' => hok a s' (hlater s' h'))
      fun e s' h' => herr e s' (hlater s' h')⟩

/-- A local computation before the rest of the program. -/
theorem Safe.lift {β : Type} {x : Except ε β} {f : β → Prog Resp ε α} {n : ℕ} {s : σ}
    (hok : ∀ a, x = .ok a → Safe P sem G Q (f a) n s)
    (herr : ∀ e, x = .error e → Safe P sem G Q (.ret (.error e) : Prog Resp ε α) n s) :
    Safe P sem G Q (.ret x >>= f) n s := by
  cases x with
  | ok a => exact hok a rfl
  | error e => exact herr e rfl

/-- Rewriting the result of a program. -/
theorem Safe.map {β : Type} {Q' : ℕ → Except ε β → σ → Prop} {p : Prog Resp ε β} (f : β → α)
    {n : ℕ} {s : σ} (hp : Safe P sem G Q' p n s)
    (hok : ∀ n a s, Q' n (.ok a) s → Q n (.ok (f a)) s)
    (herr : ∀ n e s, Q' n (.error e) s → Q n (.error e) s) : Safe P sem G Q (f <$> p) n s := by
  induction p generalizing n s with
  | ret r =>
    cases r with
    | ok a => exact fun s₁ h₁ hi => hok n a s₁ (hp s₁ h₁ hi)
    | error e => exact fun s₁ h₁ hi => herr n e s₁ (hp s₁ h₁ hi)
  | op o k ih =>
    intro s₁ h₁ hi hn r s₂ hs
    obtain ⟨hi₂, hg, n', hn', hk⟩ := hp s₁ h₁ hi hn r s₂ hs
    exact ⟨hi₂, hg, n', hn', ih r hk⟩

/-- A property that the effects preserve may be added to the invariant. -/
theorem Safe.strengthen {P' : Protocol σ} {F : σ → Prop}
    (hInv : ∀ s, P'.Inv s ↔ P.Inv s ∧ F s) (hRely : ∀ s s', P'.Rely s s' → P.Rely s s')
    (havail : ∀ s, P'.avail s = P.avail s) (hstable : ∀ o s s', G o s s' → F s → F s')
    {p : Prog Resp ε α} {n : ℕ} {s : σ} (h : Safe P sem G Q p n s) : Safe P' sem G Q p n s := by
  induction p generalizing n s with
  | ret r => exact fun s₁ h₁ hi => h s₁ (hRely _ _ h₁) ((hInv s₁).mp hi).1
  | op o k ih =>
    intro s₁ h₁ hi hn r s₂ hs
    rw [havail] at hn
    obtain ⟨hi₂, hg, n', hn', hk⟩ := h s₁ (hRely _ _ h₁) ((hInv s₁).mp hi).1 hn r s₂ hs
    refine ⟨(hInv s₂).mpr ⟨hi₂, hstable _ _ _ hg ((hInv s₁).mp hi).2⟩, hg, n', ?_, ih r hk⟩
    rw [havail, havail]
    exact hn'

/-- A sequential run of a safe program is a chain of guaranteed effects and ends in `Q`. -/
theorem Safe.runs {p : Prog Resp ε α} {n : ℕ} {s s' : σ} {r : Except ε α}
    (h : Safe P sem G Q p n s) (hi : P.Inv s) (hn : n ≤ P.avail s) (hr : p.Runs sem s r s') :
    P.Inv s' ∧ Relation.ReflTransGen (fun a b => ∃ o, G o a b) s s' ∧ ∃ n', Q n' r s' := by
  induction p generalizing n s with
  | ret r₀ =>
    obtain ⟨rfl, rfl⟩ := hr
    exact ⟨hi, .refl, n, h _ (P.rely_refl _) hi⟩
  | op o k ih =>
    obtain ⟨a, s₁, hs, hk⟩ := hr
    obtain ⟨hi₁, hg, n', hn', hsafe⟩ := h s (P.rely_refl s) hi hn a s₁ hs
    obtain ⟨hi', hchain, hQ⟩ := ih a hsafe hi₁ (by omega) hk
    exact ⟨hi', .head ⟨o, hg⟩ hchain, hQ⟩

end Safe

section Calls

variable {Ret : Op → Type} {P : Protocol σ}
  {sem : (o : Op) → σ → Except ε (Ret o) → σ → Prop} {G : Op → σ → σ → Prop}
  {Q : ℕ → Except ε α → σ → Prop}

/-- One operation before the rest of the program. -/
theorem Safe.call {o : Op} {f : Ret o → Prog (fun o => Except ε (Ret o)) ε α} {n : ℕ} {s : σ}
    (h : ∀ s₁, P.Rely s s₁ → P.Inv s₁ → n ≤ P.avail s₁ → ∀ r s₂, sem o s₁ r s₂ →
      P.Inv s₂ ∧ G o s₁ s₂ ∧ ∃ n', P.avail s₁ + n' = P.avail s₂ + n ∧
        (∀ a, r = .ok a → Safe P sem G Q (f a) n' s₂) ∧
        ∀ e, r = .error e → Safe P sem G Q (.ret (.error e)) n' s₂) :
    Safe P sem G Q (Prog.call o >>= f) n s := by
  intro s₁ h₁ hi hn r s₂ hs
  obtain ⟨hi₂, hg, n', hn', hok, herr⟩ := h s₁ h₁ hi hn r s₂ hs
  refine ⟨hi₂, hg, n', hn', ?_⟩
  cases r with
  | ok a => exact hok a rfl
  | error e => exact herr e rfl

/-- An operation that leaves the state alone, before the rest of the program. -/
theorem Safe.read {o : Op} {f : Ret o → Prog (fun o => Except ε (Ret o)) ε α} {n : ℕ} {s : σ}
    (hread : ∀ s r s', sem o s r s' → s' = s) (hG : ∀ s, P.Inv s → G o s s)
    (hok : ∀ s₁, P.Rely s s₁ → P.Inv s₁ → ∀ a, sem o s₁ (.ok a) s₁ →
      Safe P sem G Q (f a) n s₁)
    (herr : ∀ s₁, P.Rely s s₁ → P.Inv s₁ → ∀ e, sem o s₁ (.error e) s₁ →
      Safe P sem G Q (.ret (.error e)) n s₁) :
    Safe P sem G Q (Prog.call o >>= f) n s := by
  refine Safe.call fun s₁ h₁ hi _ r s₂ hs => ?_
  obtain rfl := hread _ _ _ hs
  refine ⟨hi, hG _ hi, n, rfl, ?_, ?_⟩
  · rintro a rfl
    exact hok _ h₁ hi a hs
  · rintro e rfl
    exact herr _ h₁ hi e hs

end Calls

-- from here on, programs are taken apart by the rules above and never by evaluation
attribute [irreducible] Safe

/-- The protocol holds in a configuration: the invariant holds, and there is a distribution of the
permissions that are out over the calls under which every call is safe.  `G i c` and `Q c` are what
the `i`-th call, being `c`, guarantees. -/
def Protocol.Holds (P : Protocol σ) (S : System Resp Call ε α σ)
    (G : ℕ → Call → Op → σ → σ → Prop) (Q : Call → ℕ → Except ε α → σ → Prop)
    (x : Config Resp Call ε α σ) : Prop :=
  P.Inv x.state ∧ ∃ tok : ℕ → ℕ,
    ∑ i ∈ Finset.range x.threads.length, tok i = P.avail x.state ∧
    ∀ i t, x.threads[i]? = some t →
      Safe P (S.sem t.call) (G i t.call) (Q t.call) t.prog (tok i) x.state

namespace System

variable {S : System Resp Call ε α σ} {P : Protocol σ} {G : ℕ → Call → Op → σ → σ → Prop}
  {Q : Call → ℕ → Except ε α → σ → Prop}

/-- A call that performs an operation keeps the protocol, and its effect is the guaranteed one. -/
theorem holds_of_performs (hG : ∀ i c o s s', G i c o s s' → P.Rely s s')
    {x y : Config Resp Call ε α σ} {i : ℕ} {c : Call} {o : Op} (hx : P.Holds S G Q x)
    (h : S.Performs i c o x y) : P.Holds S G Q y ∧ G i c o x.state y.state := by
  obtain ⟨hinv, tok, hsum, hsafe⟩ := hx
  obtain ⟨k, r, hi, hsem, ht⟩ := h
  have hlt : i < x.threads.length := (List.getElem?_eq_some_iff.mp hi).1
  have hmem : i ∈ Finset.range x.threads.length := Finset.mem_range.mpr hlt
  have hle : tok i ≤ P.avail x.state := by
    rw [← hsum]
    exact Finset.single_le_sum (fun _ _ => Nat.zero_le _) hmem
  obtain ⟨hinv', hg, n', hn', hk⟩ :=
    safe_op.mp (hsafe i _ hi) x.state (P.rely_refl _) hinv hle r y.state hsem
  refine ⟨⟨hinv', Function.update tok i n', ?_, ?_⟩, hg⟩
  · -- only the permissions of the `i`-th call change
    have hold := Finset.add_sum_erase (Finset.range x.threads.length) tok hmem
    have hnew := Finset.add_sum_erase (Finset.range x.threads.length)
      (Function.update tok i n') hmem
    have hrest : ∑ j ∈ (Finset.range x.threads.length).erase i, Function.update tok i n' j =
        ∑ j ∈ (Finset.range x.threads.length).erase i, tok j :=
      Finset.sum_congr rfl fun j hj => by
        rw [Function.update_of_ne (Finset.ne_of_mem_erase hj)]
    rw [Function.update_self, hrest] at hnew
    rw [ht, List.length_set, ← hnew]
    omega
  · intro j t hj
    rw [ht, List.getElem?_set] at hj
    by_cases hij : i = j
    · subst hij
      simp only [hlt, if_true, Option.some.injEq] at hj
      subst hj
      simpa using hk
    · rw [if_neg hij] at hj
      rw [Function.update_of_ne (Ne.symm hij)]
      exact (hsafe j t hj).rely (hG _ _ _ _ _ hg)

/-- Starting a safe call keeps the protocol. -/
theorem holds_of_spawn {x : Config Resp Call ε α σ} {c : Call} (hx : P.Holds S G Q x)
    (hc : Safe P (S.sem c) (G x.threads.length c) (Q c) (S.body c) 0 x.state) :
    P.Holds S G Q ⟨x.state, x.threads ++ [⟨c, S.body c⟩]⟩ := by
  obtain ⟨hinv, tok, hsum, hsafe⟩ := hx
  refine ⟨hinv, Function.update tok x.threads.length 0, ?_, ?_⟩
  · rw [List.length_append, List.length_singleton, Finset.sum_range_succ, Function.update_self,
      Nat.add_zero, ← hsum]
    exact Finset.sum_congr rfl fun j hj => by
      rw [Function.update_of_ne (Finset.mem_range.mp hj).ne]
  · intro j t hj
    rcases lt_trichotomy j x.threads.length with hlt | rfl | hgt
    · rw [List.getElem?_append_left hlt] at hj
      rw [Function.update_of_ne hlt.ne]
      exact hsafe j t hj
    · rw [List.getElem?_append_right le_rfl] at hj
      simp only [Nat.sub_self, List.getElem?_cons_zero, Option.some.injEq] at hj
      subst hj
      simpa using hc
    · rw [List.getElem?_eq_none (by simp; omega)] at hj
      cases hj

/-- The induction over runs: if the protocol holds in `x` and every call that may be started from
then on is safe, the protocol holds in every configuration reached from `x`.  `A` restricts the calls
that are started. -/
theorem holds_of_steps {A : Call → Prop} (hG : ∀ i c o s s', G i c o s s' → P.Rely s s')
    {x y : Config Resp Call ε α σ} (hx : P.Holds S G Q x)
    (hbody : ∀ i c s, x.threads.length ≤ i → A c → P.Inv s →
      Safe P (S.sem c) (G i c) (Q c) (S.body c) 0 s)
    (hcalls : ∀ t ∈ y.threads, A t.call) (h : S.Steps x y) :
    P.Holds S G Q y ∧ x.threads.length ≤ y.threads.length ∧ P.Rely x.state y.state := by
  induction h with
  | refl => exact ⟨hx, le_rfl, P.rely_refl _⟩
  | tail _ hstep ih =>
    obtain ⟨hy, hlen, hrely⟩ := ih fun t ht => by
      obtain ⟨t', ht', heq⟩ := S.call_mem_of_step hstep ⟨t, ht, rfl⟩
      exact heq ▸ hcalls t' ht'
    cases hstep with
    | spawn c =>
      have hc : A c := hcalls ⟨c, S.body c⟩ (by simp)
      exact ⟨holds_of_spawn hy (hbody _ c _ hlen hc hy.1), by simp; omega, hrely⟩
    | perform i c o hp =>
      obtain ⟨k, r, _, _, ht⟩ := id hp
      obtain ⟨hz, hg⟩ := holds_of_performs hG hy hp
      exact ⟨hz, by rw [ht, List.length_set]; exact hlen,
        P.rely_trans _ _ _ hrely (hG _ _ _ _ _ hg)⟩

/-- The rule from the start: with no permission out and no call started, a system of safe calls
keeps the protocol in every reachable configuration. -/
theorem holds_of_reachable {A : Call → Prop} (hG : ∀ i c o s s', G i c o s s' → P.Rely s s')
    {s₀ : σ} (h₀ : P.Inv s₀) (ha : P.avail s₀ = 0)
    (hbody : ∀ i c s, A c → P.Inv s → Safe P (S.sem c) (G i c) (Q c) (S.body c) 0 s)
    {x : Config Resp Call ε α σ} (hcalls : ∀ t ∈ x.threads, A t.call) (h : S.Reachable s₀ x) :
    P.Holds S G Q x := by
  have hstart : P.Holds S G Q ⟨s₀, []⟩ := ⟨h₀, fun _ => 0, by simp [ha], by simp⟩
  exact (holds_of_steps hG hstart (fun i c s _ => hbody i c s) hcalls h).1

/-- What the protocol says about an operation of a run that has come to `s`. -/
structure Guaranteed (P : Protocol σ) (G : ℕ → Call → Op → σ → σ → Prop) (s : σ)
    (e : Event Call Op σ) : Prop where
  before : P.Inv e.before
  after : P.Inv e.after
  effect : ∃ i, G i e.call e.op e.before e.after
  since : P.Rely e.after s

/-- The operations of a run, when the protocol holds in its first configuration and all calls are safe:
each has a guaranteed effect, and later ones start from where the protocol allows. -/
theorem holds_of_trace (hG : ∀ i c o s s', G i c o s s' → P.Rely s s')
    {x y : Config Resp Call ε α σ} {l : List (Event Call Op σ)} (hx : P.Holds S G Q x)
    (hbody : ∀ i c s, P.Inv s → Safe P (S.sem c) (G i c) (Q c) (S.body c) 0 s) (h : S.Trace x l y) :
    P.Holds S G Q y ∧ (∀ e ∈ l, Guaranteed P G y.state e) ∧
      l.Pairwise fun e e' => P.Rely e.after e'.before := by
  induction h with
  | nil => exact ⟨hx, nofun, .nil⟩
  | spawn _ c ih =>
    obtain ⟨hy, hevents, hpairs⟩ := ih
    exact ⟨holds_of_spawn hy (hbody _ c _ hy.1), hevents, hpairs⟩
  | perform _ hp ih =>
    obtain ⟨hy, hevents, hpairs⟩ := ih
    obtain ⟨hz, hg⟩ := holds_of_performs hG hy hp
    have hrely := hG _ _ _ _ _ hg
    refine ⟨hz, fun e he => ?_, ?_⟩
    · rcases List.mem_append.mp he with he | he
      · have hguaranteed := hevents e he
        exact { hguaranteed with since := P.rely_trans _ _ _ hguaranteed.since hrely }
      · rw [List.mem_singleton] at he
        subst he
        exact ⟨hy.1, hz.1, ⟨_, hg⟩, P.rely_refl _⟩
    · rw [List.pairwise_append]
      refine ⟨hpairs, List.pairwise_singleton _ _, fun e he e' he' => ?_⟩
      rw [List.mem_singleton] at he'
      subst he'
      exact (hevents e he).since

end System

end Concurrent
