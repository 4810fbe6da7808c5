import Mathlib.Order.Basic
import RailOneCore.Library.Interleaving

/-!
# Leased work queues

Workers take items from a shared queue for a limited time, work on them, and then acknowledge or
release them; when the time is over, anyone may take the item again.  A queue is a partial map from keys
to entries, and `Moves` says what one step may do to it.  From this alone follow the guarantees of such
queues over whole runs: items neither change nor disappear, finished entries stay as they are, and a
worker that does not hold an item does not get it without taking it.

`Sound` is the bookkeeping of one entry at a time of a clock that does not run backwards: leases belong
to items in flight, and an item in flight is due.
-/

namespace Leases

/-- Where an entry stands. -/
inductive Phase
  | waiting | inFlight | done | abandoned
  deriving DecidableEq

/-- An item of the queue, with the lease under which it is worked on. -/
structure Entry (ι Worker τ : Type) where
  item : ι
  phase : Phase
  /-- The time from which a waiting item may be taken. -/
  available : τ
  owner : Option Worker
  /-- The time from which an item in flight may be taken again. -/
  until_ : Option τ

/-- The queue, as a partial map. -/
abbrev Queue (κ ι Worker τ : Type) := κ → Option (Entry ι Worker τ)

/-- What is done to a queue. -/
inductive Act (κ Worker : Type)
  | claim (w : Worker)
  | acknowledge (k : κ) (w : Worker)
  | release (k : κ) (w : Worker)
  | other

variable {κ ι Worker τ : Type} [LinearOrder τ]

namespace Entry

/-- The entry is done, or given up. -/
def Finished (e : Entry ι Worker τ) : Prop := e.phase = .done ∨ e.phase = .abandoned

/-- The entry may be taken at the time `now`. -/
def Ready (now : τ) (e : Entry ι Worker τ) : Prop :=
  e.phase = .waiting ∧ e.available ≤ now ∨ e.phase = .inFlight ∧ ∃ t, e.until_ = some t ∧ t ≤ now

/-- An entry that nobody has taken yet. -/
structure Fresh (due : ι → τ) (e : Entry ι Worker τ) : Prop where
  phase : e.phase = .waiting
  available : e.available = due e.item
  owner : e.owner = none
  until_ : e.until_ = none

/-- The bookkeeping of an entry at the time `now`. -/
structure Sound (due : ι → τ) (now : τ) (e : Entry ι Worker τ) : Prop where
  owner : e.owner.isSome = true ↔ e.phase = .inFlight
  until_ : e.until_.isSome = true ↔ e.phase = .inFlight
  due_le : due e.item ≤ e.available
  available_le : e.phase = .inFlight → e.available ≤ now

variable {due : ι → τ} {now now' : τ} {e e' : Entry ι Worker τ}

theorem Fresh.sound (h : e.Fresh due) : e.Sound due now where
  owner := by simp [h.owner, h.phase]
  until_ := by simp [h.until_, h.phase]
  due_le := h.available.ge
  available_le hphase := by simp [h.phase] at hphase

/-- Soundness is kept while time goes on. -/
theorem Sound.mono (h : e.Sound due now) (hnow : now ≤ now') : e.Sound due now' :=
  { h with available_le := fun hphase => (h.available_le hphase).trans hnow }

/-- What is in flight is due. -/
theorem Sound.due_le_now (h : e.Sound due now) (hphase : e.phase = .inFlight) : due e.item ≤ now :=
  h.due_le.trans (h.available_le hphase)

end Entry

open Entry

/-- What a step, at the time `now`, may do to the entry of `k`. -/
inductive Move (now : τ) (a : Act κ Worker) (k : κ) (e : Entry ι Worker τ) : Entry ι Worker τ → Prop
  | stays : Move now a k e e
  | claimed (w : Worker) (t : τ) (ha : a = .claim w) (hready : e.Ready now) :
      Move now a k e { e with phase := .inFlight, owner := some w, until_ := some t }
  | acknowledged (w : Worker) (ha : a = .acknowledge k w) (hphase : e.phase = .inFlight)
      (howner : e.owner = some w) :
      Move now a k e { e with phase := .done, owner := none, until_ := none }
  | released (w : Worker) (t : τ) (ha : a = .release k w) (hphase : e.phase = .inFlight)
      (howner : e.owner = some w) (ht : now ≤ t) :
      Move now a k e { e with phase := .waiting, available := t, owner := none, until_ := none }
  | abandoned (w : Worker) (ha : a = .release k w) (hphase : e.phase = .inFlight)
      (howner : e.owner = some w) :
      Move now a k e { e with phase := .abandoned, owner := none, until_ := none }

namespace Move

variable {due : ι → τ} {now₀ now : τ} {a : Act κ Worker} {k : κ} {e e' : Entry ι Worker τ}

/-- Items do not change. -/
theorem item (h : Move now a k e e') : e'.item = e.item := by
  cases h <;> rfl

/-- Finished entries stay as they are. -/
theorem eq_of_finished (h : Move now a k e e') (he : e.Finished) : e' = e := by
  have hflight : e.phase ≠ .inFlight := by
    rcases he with he | he <;> simp [he]
  cases h with
  | stays => rfl
  | claimed w t ha hready =>
    rcases hready with ⟨hphase, -⟩ | ⟨hphase, -⟩
    · rcases he with he | he <;> simp [he] at hphase
    · exact absurd hphase hflight
  | acknowledged _ _ hphase => exact absurd hphase hflight
  | released _ _ _ hphase => exact absurd hphase hflight
  | abandoned _ _ hphase => exact absurd hphase hflight

/-- Entries stay sound.  A claim finds the entry due: it waits until it is available, or its lease was
given at a time when it was. -/
theorem sound (h : Move now a k e e') (he : e.Sound due now₀) (hnow : now₀ ≤ now) :
    e'.Sound due now := by
  have hsound := he.mono hnow
  cases h with
  | stays => exact hsound
  | claimed w t ha hready =>
    refine ⟨by simp, by simp, he.due_le, fun _ => ?_⟩
    rcases hready with ⟨-, havailable⟩ | ⟨hphase, -⟩
    · exact havailable
    · exact hsound.available_le hphase
  | acknowledged => exact ⟨by simp, by simp, he.due_le, nofun⟩
  | released w t ha hphase howner ht =>
    exact ⟨by simp, by simp, (hsound.due_le_now hphase).trans ht, nofun⟩
  | abandoned => exact ⟨by simp, by simp, he.due_le, nofun⟩

/-- Only an acknowledgement finishes an item. -/
theorem acknowledged_of_done (h : Move now a k e e') (he : e.phase ≠ .done) (he' : e'.phase = .done) :
    ∃ w, a = .acknowledge k w := by
  cases h with
  | stays => exact absurd he' he
  | acknowledged w ha => exact ⟨w, ha⟩
  | claimed | released | abandoned => cases he'

/-- Only a claim of its own makes a worker the owner. -/
theorem claim_of_owner (h : Move now a k e e') {w : Worker} (he : e.owner ≠ some w)
    (he' : e'.owner = some w) : a = .claim w := by
  cases h with
  | stays => exact absurd he' he
  | claimed w' t ha =>
    obtain rfl := Option.some.inj he'
    exact ha
  | acknowledged | released | abandoned => cases he'

end Move

/-! ## Queues -/

/-- The bookkeeping of a queue: its entries are sound, and stand under the keys of their items. -/
def Consistent (key : ι → κ) (due : ι → τ) (now : τ) (q : Queue κ ι Worker τ) : Prop :=
  ∀ k e, q k = some e → e.Sound due now ∧ key e.item = k

/-- What a step does to a queue: it moves the entries, and those that it adds are fresh. -/
structure Moves (key : ι → κ) (due : ι → τ) (now : τ) (a : Act κ Worker) (q q' : Queue κ ι Worker τ) :
    Prop where
  moves : ∀ k e, q k = some e → ∃ e', q' k = some e' ∧ Move now a k e e'
  adds : ∀ k e, q k = none → q' k = some e → e.Fresh due ∧ key e.item = k

variable {key : ι → κ} {due : ι → τ} {now₀ now : τ} {a : Act κ Worker} {q q' : Queue κ ι Worker τ}

theorem Moves.refl (key : ι → κ) (due : ι → τ) (now : τ) (a : Act κ Worker) (q : Queue κ ι Worker τ) :
    Moves key due now a q q where
  moves _ e he := ⟨e, he, .stays⟩
  adds k e hnone he := by rw [hnone] at he; cases he

/-- A queue stays consistent. -/
theorem Moves.consistent (h : Moves key due now a q q') (hq : Consistent key due now₀ q)
    (hnow : now₀ ≤ now) : Consistent key due now q' := by
  intro k e' he'
  cases he : q k with
  | none =>
    obtain ⟨hfresh, hkey⟩ := h.adds k e' he he'
    exact ⟨hfresh.sound, hkey⟩
  | some e =>
    obtain ⟨e₁, he₁, hmove⟩ := h.moves k e he
    rw [he₁, Option.some.injEq] at he'
    obtain ⟨hsound, hkey⟩ := hq k e he
    subst he'
    exact ⟨hmove.sound hsound hnow, hmove.item.symm ▸ hkey⟩

section Runs

open Concurrent

variable {Op Call : Type} {Resp : Op → Type} {ε α σ : Type} {S : System Resp Call ε α σ}
  (view : σ → Queue κ ι Worker τ) (clock : σ → τ) (act : Call → Op → Act κ Worker)

/-- The operation is a claim after which the worker owns the entry of `k`. -/
def Takes (w : Worker) (k : κ) (e : System.Event Call Op σ) : Prop :=
  act e.call e.op = .claim w ∧ ∃ entry, view e.after k = some entry ∧ entry.owner = some w

/-- What a run, all of whose steps move the queue, makes of an entry: its item stays, a finished entry
stays as it is, and a worker that does not own it gets it only by taking it. -/
theorem entry_of_trace {x y : Config Resp Call ε α σ} {l : List (System.Event Call Op σ)}
    (h : S.Trace x l y)
    (hl : ∀ e ∈ l, Moves key due (clock e.after) (act e.call e.op) (view e.before) (view e.after)) {k : κ}
    {entry : Entry ι Worker τ} (hk : view x.state k = some entry) :
    ∃ entry', view y.state k = some entry' ∧ entry'.item = entry.item ∧
      (entry.Finished → entry' = entry) ∧
      ∀ w, entry.owner ≠ some w → (∀ e ∈ l, ¬ Takes view act w k e) → entry'.owner ≠ some w := by
  induction h with
  | nil => exact ⟨entry, hk, rfl, fun _ => rfl, fun _ hne _ => hne⟩
  | spawn _ c ih => exact ih hl
  | @perform l y z h i c o hp ih =>
    obtain ⟨e₁, he₁, hitem, hfinished, howner⟩ := ih fun e he => hl e (List.mem_append_left _ he)
    have hlast := hl ⟨c, o, y.state, z.state⟩ (List.mem_append_right _ List.mem_cons_self)
    obtain ⟨e₂, he₂, hmove⟩ := hlast.moves k e₁ he₁
    refine ⟨e₂, he₂, hmove.item.trans hitem, fun hf => ?_, fun w hne hclaims hw => ?_⟩
    · have heq := hfinished hf
      exact (hmove.eq_of_finished (heq ▸ hf)).trans heq
    · have hne₁ := howner w hne fun e he => hclaims e (List.mem_append_left _ he)
      exact hclaims _ (List.mem_append_right _ List.mem_cons_self)
        ⟨hmove.claim_of_owner hne₁ hw, e₂, he₂, hw⟩

end Runs

end Leases
