import Mathlib.Data.List.Basic

/-!
# Sequential machines

A component that handles one call after the other: `next` is the state a call leaves behind, and
whatever is observed of a call is a function of the call and of the state it finds.  Runs are folds over
lists of calls, from any state.

Three rules carry the arguments about runs: an invariant along calls that meet a condition, a simulation
that may look at the calls still to come, and the projection of a run to the calls that concern one part
of the state.
-/

namespace Machine

variable {S S' C C' B : Type} (next : S → C → S)

/-- The state after some calls. -/
def after (s : S) (cs : List C) : S := cs.foldl next s

/-- What `f` observes at each call. -/
def along (f : S → C → B) : S → List C → List B
  | _, [] => []
  | s, c :: cs => f s c :: along f (next s c) cs

/-- Every call meets the condition in the state that it finds. -/
def Throughout (P : S → C → Prop) : S → List C → Prop
  | _, [] => True
  | s, c :: cs => P s c ∧ Throughout P (next s c) cs

variable {next}

@[simp] theorem after_nil (s : S) : after next s [] = s := rfl

@[simp] theorem after_cons (s : S) (c : C) (cs : List C) :
    after next s (c :: cs) = after next (next s c) cs := rfl

@[simp] theorem along_cons (f : S → C → B) (s : S) (c : C) (cs : List C) :
    along next f s (c :: cs) = f s c :: along next f (next s c) cs := rfl

@[simp] theorem throughout_nil (P : S → C → Prop) (s : S) : Throughout next P s [] := trivial

@[simp] theorem throughout_cons (P : S → C → Prop) (s : S) (c : C) (cs : List C) :
    Throughout next P s (c :: cs) ↔ P s c ∧ Throughout next P (next s c) cs := Iff.rfl

theorem after_append (s : S) (cs ds : List C) :
    after next s (cs ++ ds) = after next (after next s cs) ds := List.foldl_append

theorem along_append (f : S → C → B) (s : S) (cs ds : List C) :
    along next f s (cs ++ ds) = along next f s cs ++ along next f (after next s cs) ds := by
  induction cs generalizing s with
  | nil => rfl
  | cons c cs ih => rw [List.cons_append, along_cons, along_cons, after_cons, ih, List.cons_append]

theorem throughout_append {P : S → C → Prop} {s : S} {cs ds : List C} :
    Throughout next P s (cs ++ ds) ↔
      Throughout next P s cs ∧ Throughout next P (after next s cs) ds := by
  induction cs generalizing s with
  | nil => exact ⟨fun h => ⟨trivial, h⟩, fun h => h.2⟩
  | cons c cs ih => rw [List.cons_append, throughout_cons, throughout_cons, after_cons, ih, and_assoc]

/-- A condition that every call preserves as an invariant holds after the run, and at every call of it. -/
theorem invariant {I : S → Prop} {P : S → C → Prop} (h : ∀ s c, I s → P s c → I (next s c)) {s : S}
    {cs : List C} (hs : I s) (hcs : Throughout next P s cs) :
    I (after next s cs) ∧ Throughout next (fun s c => I s ∧ P s c) s cs := by
  induction cs generalizing s with
  | nil => exact ⟨hs, trivial⟩
  | cons c cs ih =>
    obtain ⟨hc, hcs⟩ := hcs
    obtain ⟨hafter, hall⟩ := ih (h s c hs hc) hcs
    exact ⟨hafter, ⟨hs, hc⟩, hall⟩

/-- Weaken what holds at every call. -/
theorem Throughout.mono {P Q : S → C → Prop} (h : ∀ s c, P s c → Q s c) {s : S} {cs : List C}
    (hcs : Throughout next P s cs) : Throughout next Q s cs := by
  induction cs generalizing s with
  | nil => trivial
  | cons c cs ih => exact ⟨h s c hcs.1, ih hcs.2⟩

/-- Two conditions on calls that agree wherever an invariant holds hold throughout the same runs, if calls
that meet the second one preserve the invariant. -/
theorem throughout_iff {I : S → Prop} {A : C → Prop} {P Q : S → C → Prop}
    (hiff : ∀ s c, I s → A c → (P s c ↔ Q s c)) (hnext : ∀ s c, I s → A c → Q s c → I (next s c)) {s : S}
    {cs : List C} (hs : I s) (hcs : ∀ c ∈ cs, A c) : Throughout next P s cs ↔ Throughout next Q s cs := by
  induction cs generalizing s with
  | nil => exact Iff.rfl
  | cons c cs ih =>
    have hc := hcs c List.mem_cons_self
    have hrest : ∀ d ∈ cs, A d := fun d hd => hcs d (List.mem_cons_of_mem c hd)
    rw [throughout_cons, throughout_cons, hiff s c hs hc]
    exact and_congr_right fun hq => ih (hnext s c hs hc hq) hrest

/-- A condition holds throughout a run if every call meets it after the calls before it. -/
theorem throughout_iff_forall_split {P : S → C → Prop} {s : S} {cs : List C} :
    Throughout next P s cs ↔
      ∀ before c rest, cs = before ++ c :: rest → P (after next s before) c := by
  constructor
  · rintro h before c rest rfl
    exact (throughout_append.mp h).2.1
  · intro h
    induction cs generalizing s with
    | nil => trivial
    | cons c cs ih =>
      refine ⟨h [] c cs rfl, ih fun before d rest heq => ?_⟩
      exact h (c :: before) d rest (congrArg (c :: ·) heq)

/-- Two machines side by side. -/
theorem after_prod {next' : S' → C → S'} (s : S) (t : S') (cs : List C) :
    after (fun (st : S × S') c => (next st.1 c, next' st.2 c)) (s, t) cs =
      (after next s cs, after next' t cs) := by
  induction cs generalizing s t with
  | nil => rfl
  | cons c cs ih => rw [after_cons, after_cons, after_cons, ih]

/-- Two machines that stay related observe the same.  The relation may look at the calls to come. -/
theorem along_eq {next' : S' → C → S'} {f : S → C → B} {g : S' → C → B} (R : S → S' → List C → Prop)
    (h : ∀ s t c cs, R s t (c :: cs) → f s c = g t c ∧ R (next s c) (next' t c) cs) {s : S} {t : S'}
    {cs : List C} (hR : R s t cs) : along next f s cs = along next' g t cs := by
  induction cs generalizing s t with
  | nil => rfl
  | cons c cs ih =>
    obtain ⟨heq, hnext⟩ := h s t c cs hR
    rw [along_cons, along_cons, heq, ih hnext]

end Machine
