import Mathlib.Data.List.Nodup

/-!
# Insertion-ordered dictionaries

A `Dict` is a finite map that remembers the order in which its keys were first inserted: assigning
to a present key replaces the value in place, assigning to an absent key appends.  The keys are
pairwise distinct by construction.  The order matters to code that scans the values and takes the
first match, so the dictionaries of this development are not plain functions.
-/

namespace Ordered

/-- A finite map that remembers the insertion order of its keys. -/
structure Dict (K V : Type) where
  entries : List (K × V)
  nodup : (entries.map Prod.fst).Nodup

namespace Dict

variable {K V : Type}

@[ext] theorem ext {d d' : Dict K V} (h : d.entries = d'.entries) : d = d' := by
  cases d; cases d'; cases h; rfl

/-- The dictionary without entries. -/
def empty : Dict K V := ⟨[], List.nodup_nil⟩

/-- The values, in insertion order of their keys. -/
def values (d : Dict K V) : List V := d.entries.map Prod.snd

@[simp] theorem values_empty : (empty : Dict K V).values = [] := rfl

variable [DecidableEq K]

/-- The value of a key, if there is one. -/
def get? (d : Dict K V) (k : K) : Option V := d.entries.lookup k

/-- Replace the value of `k` in place, or append the pair. -/
def setEntries (k : K) (v : V) : List (K × V) → List (K × V)
  | [] => [(k, v)]
  | e :: es => if e.1 = k then (k, v) :: es else e :: setEntries k v es

theorem keys_setEntries (k : K) (v : V) (es : List (K × V)) :
    (setEntries k v es).map Prod.fst =
      if k ∈ es.map Prod.fst then es.map Prod.fst else es.map Prod.fst ++ [k] := by
  induction es with
  | nil => rfl
  | cons e es ih =>
    unfold setEntries
    by_cases h : e.1 = k
    · simp [h]
    · rw [if_neg h, List.map_cons, ih]
      by_cases hk : k ∈ es.map Prod.fst
      · simp [hk]
      · simp [hk, Ne.symm h]

theorem nodup_setEntries {k : K} {v : V} {es : List (K × V)} (h : (es.map Prod.fst).Nodup) :
    ((setEntries k v es).map Prod.fst).Nodup := by
  rw [keys_setEntries]
  split
  · exact h
  · next hk => exact List.nodup_append.mpr ⟨h, by simp, by
      intro a ha b hb
      rw [List.mem_singleton] at hb
      exact fun hab => hk (hb ▸ hab ▸ ha)⟩

/-- Assign `v` to `k`. -/
def set (d : Dict K V) (k : K) (v : V) : Dict K V :=
  ⟨setEntries k v d.entries, nodup_setEntries d.nodup⟩

@[simp] theorem entries_set (d : Dict K V) (k : K) (v : V) :
    (d.set k v).entries = setEntries k v d.entries := rfl

@[simp] theorem get?_empty (k : K) : (empty : Dict K V).get? k = none := rfl

private theorem lookup_setEntries (k k' : K) (v : V) (es : List (K × V)) :
    (setEntries k v es).lookup k' = if k' = k then some v else es.lookup k' := by
  induction es with
  | nil =>
    by_cases h : k' = k
    · simp [setEntries, h]
    · simp [setEntries, List.lookup_cons, beq_eq_false_iff_ne.mpr h, h]
  | cons e es ih =>
    obtain ⟨a, b⟩ := e
    unfold setEntries
    by_cases ha : a = k
    · subst ha
      by_cases h : k' = a
      · simp [h]
      · simp [List.lookup_cons, beq_eq_false_iff_ne.mpr h, h]
    · rw [if_neg ha, List.lookup_cons, List.lookup_cons, ih]
      by_cases h : k' = a
      · subst h
        simp [ha]
      · simp [beq_eq_false_iff_ne.mpr h]

/-- Reading after an assignment. -/
@[simp] theorem get?_set (d : Dict K V) (k k' : K) (v : V) :
    (d.set k v).get? k' = if k' = k then some v else d.get? k' :=
  lookup_setEntries k k' v d.entries

theorem get?_set_self (d : Dict K V) (k : K) (v : V) : (d.set k v).get? k = some v := by simp

theorem get?_set_of_ne (d : Dict K V) {k k' : K} (v : V) (h : k' ≠ k) :
    (d.set k v).get? k' = d.get? k' := by simp [h]

/-- Drop the entry of `k`, if there is one. -/
def erase (d : Dict K V) (k : K) : Dict K V :=
  ⟨d.entries.filter fun e => e.1 ≠ k, (List.filter_sublist.map Prod.fst).nodup d.nodup⟩

/-- Reading after a removal. -/
theorem get?_erase (d : Dict K V) (k k' : K) :
    (d.erase k).get? k' = if k' = k then none else d.get? k' := by
  obtain ⟨es, hnd⟩ := d
  change (es.filter fun e => e.1 ≠ k).lookup k' = if k' = k then none else es.lookup k'
  clear hnd
  induction es with
  | nil => simp
  | cons e es ih =>
    obtain ⟨a, b⟩ := e
    by_cases ha : a = k
    · rw [List.filter_cons_of_neg (by simpa using ha), ih, List.lookup_cons, ha]
      by_cases h : k' = k
      · simp [h]
      · simp [h, beq_eq_false_iff_ne.mpr h]
    · rw [List.filter_cons_of_pos (by simpa using ha), List.lookup_cons, List.lookup_cons, ih]
      by_cases h : k' = a
      · simp [h, ha]
      · simp [beq_eq_false_iff_ne.mpr h]

/-- An entry is found under its key. -/
theorem get?_of_mem {d : Dict K V} {k : K} {v : V} (h : (k, v) ∈ d.entries) :
    d.get? k = some v := by
  obtain ⟨es, hnd⟩ := d
  unfold get?
  change es.lookup k = some v
  induction es with
  | nil => cases h
  | cons e es ih =>
    obtain ⟨a, b⟩ := e
    rw [List.map_cons, List.nodup_cons] at hnd
    rcases List.mem_cons.mp h with heq | h
    · cases heq
      simp
    · have hne : (k == a) = false :=
        beq_eq_false_iff_ne.mpr fun hk => hnd.1 (List.mem_map.mpr ⟨(k, v), h, hk⟩)
      rw [List.lookup_cons, hne]
      exact ih hnd.2 h

/-- A present key splits the dictionary around its entry. -/
theorem entries_of_get? {d : Dict K V} {k : K} {v : V} (h : d.get? k = some v) :
    ∃ l₁ l₂, d.entries = l₁ ++ (k, v) :: l₂ := by
  obtain ⟨l₁, l₂, heq, -⟩ := List.lookup_eq_some_iff.mp h
  exact ⟨l₁, l₂, heq⟩

theorem mem_values {d : Dict K V} {v : V} : v ∈ d.values ↔ ∃ k, d.get? k = some v := by
  constructor
  · intro h
    obtain ⟨⟨k, w⟩, hmem, rfl⟩ := List.mem_map.mp h
    exact ⟨k, get?_of_mem hmem⟩
  · rintro ⟨k, h⟩
    obtain ⟨l₁, l₂, heq⟩ := entries_of_get? h
    rw [values, heq]
    simp

private theorem setEntries_append {k : K} {v w : V} {l₁ l₂ : List (K × V)}
    (hk : k ∉ l₁.map Prod.fst) :
    setEntries k v (l₁ ++ (k, w) :: l₂) = l₁ ++ (k, v) :: l₂ := by
  induction l₁ with
  | nil => simp [setEntries]
  | cons e l₁ ih =>
    rw [List.map_cons, List.mem_cons, not_or] at hk
    rw [List.cons_append, setEntries, if_neg (Ne.symm hk.1), ih hk.2, List.cons_append]

/-- Assigning to a present key replaces its value in place. -/
theorem values_set_of_some {d : Dict K V} {k : K} {w : V} (h : d.get? k = some w) (v : V) :
    ∃ l₁ l₂, d.values = l₁ ++ w :: l₂ ∧ (d.set k v).values = l₁ ++ v :: l₂ := by
  obtain ⟨l₁, l₂, heq⟩ := entries_of_get? h
  have hk : k ∉ l₁.map Prod.fst := by
    have hnd := d.nodup
    rw [heq, List.map_append, List.map_cons] at hnd
    exact fun hmem => (List.nodup_append.mp hnd).2.2 k hmem k (by simp) rfl
  refine ⟨l₁.map Prod.snd, l₂.map Prod.snd, ?_, ?_⟩
  · rw [values, heq]
    simp
  · rw [values, entries_set, heq, setEntries_append hk]
    simp

private theorem setEntries_of_not_mem {k : K} {v : V} {es : List (K × V)}
    (hk : k ∉ es.map Prod.fst) : setEntries k v es = es ++ [(k, v)] := by
  induction es with
  | nil => rfl
  | cons e es ih =>
    rw [List.map_cons, List.mem_cons, not_or] at hk
    rw [setEntries, if_neg (Ne.symm hk.1), ih hk.2, List.cons_append]

/-- Assigning to an absent key appends its entry. -/
theorem entries_set_of_not_mem {d : Dict K V} {k : K} {v : V} (h : k ∉ d.entries.map Prod.fst) :
    (d.set k v).entries = d.entries ++ [(k, v)] := setEntries_of_not_mem h

/-- Assigning to an absent key appends its value. -/
theorem values_set_of_none {d : Dict K V} {k : K} (h : d.get? k = none) (v : V) :
    (d.set k v).values = d.values ++ [v] := by
  have hk : k ∉ d.entries.map Prod.fst := by
    intro hmem
    obtain ⟨⟨a, w⟩, hw, rfl⟩ := List.mem_map.mp hmem
    rw [get?_of_mem hw] at h
    cases h
  rw [values, entries_set, setEntries_of_not_mem hk, List.map_append]
  rfl

/-- Assigning to a present key a value that looks the same changes nothing that is looked at. -/
theorem map_entries_set {W : Type} (g : V → W) {d : Dict K V} {k : K} {v w : V}
    (h : d.get? k = some w) (hg : g v = g w) :
    (d.set k v).entries.map (fun p => (p.1, g p.2)) = d.entries.map fun p => (p.1, g p.2) := by
  obtain ⟨l₁, l₂, heq⟩ := entries_of_get? h
  have hk : k ∉ l₁.map Prod.fst := by
    have hnd := d.nodup
    rw [heq, List.map_append, List.map_cons] at hnd
    exact fun hmem => (List.nodup_append.mp hnd).2.2 k hmem k (by simp) rfl
  rw [entries_set, heq, setEntries_append hk]
  simp [hg]

/-- How an assignment to a present key changes the number of values with a property. -/
theorem countP_set_of_some (p : V → Bool) {d : Dict K V} {k : K} {w : V}
    (h : d.get? k = some w) (v : V) :
    (d.set k v).values.countP p + (if p w then 1 else 0) =
      d.values.countP p + (if p v then 1 else 0) := by
  obtain ⟨l₁, l₂, h₁, h₂⟩ := values_set_of_some h v
  rw [h₁, h₂]
  simp only [List.countP_append, List.countP_cons]
  omega

/-- How an assignment to an absent key changes the number of values with a property. -/
theorem countP_set_of_none (p : V → Bool) {d : Dict K V} {k : K} (h : d.get? k = none) (v : V) :
    (d.set k v).values.countP p = d.values.countP p + (if p v then 1 else 0) := by
  rw [values_set_of_none h]
  simp only [List.countP_append, List.countP_cons, List.countP_nil]
  omega

/-! ## Rewriting rows -/

/-- Assign to the key of each row what `f` makes of the row, one row after the other. -/
def rewrite (key : V → K) (f : V → V) : List V → Dict K V → Dict K V
  | [], d => d
  | row :: rows, d => rewrite key f rows (d.set (key row) (f row))

section Rewrite

variable {key : V → K} {f : V → V} {rows : List V} {d : Dict K V}

/-- Rows of other keys are not touched. -/
theorem get?_rewrite_of_ne {k : K} (h : ∀ row ∈ rows, key row ≠ k) :
    (d.rewrite key f rows).get? k = d.get? k := by
  induction rows generalizing d with
  | nil => rfl
  | cons row rows ih =>
    unfold rewrite
    rw [ih fun r hr => h r (List.mem_cons_of_mem _ hr), get?_set_of_ne _ _ (h row List.mem_cons_self).symm]

/-- A row is rewritten once, if rows with the same key are the same. -/
theorem get?_rewrite_of_mem {row : V} (hrows : ∀ r ∈ rows, ∀ r' ∈ rows, key r = key r' → r = r')
    (h : row ∈ rows) : (d.rewrite key f rows).get? (key row) = some (f row) := by
  induction rows generalizing d with
  | nil => cases h
  | cons first rows ih =>
    unfold rewrite
    by_cases hlater : ∃ r ∈ rows, key r = key row
    · obtain ⟨r, hr, hkey⟩ := hlater
      have heq : r = row := hrows r (List.mem_cons_of_mem _ hr) row h hkey
      subst heq
      exact ih (fun a ha b hb => hrows a (List.mem_cons_of_mem _ ha) b (List.mem_cons_of_mem _ hb)) hr
    · have hne : ∀ r ∈ rows, key r ≠ key row := fun r hr hkey => hlater ⟨r, hr, hkey⟩
      rw [get?_rewrite_of_ne hne]
      rcases List.mem_cons.mp h with rfl | hmem
      · rw [get?_set_self]
      · exact absurd rfl (hne row hmem)

end Rewrite

end Dict

end Ordered
