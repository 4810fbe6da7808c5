import Mathlib.Data.List.MinMax

/-!
# The highest version wins

A reader is told of items in some order, some of them several times and some of them never, and keeps
for every key the item with the highest version, the first one of them if there are several.  What it
keeps depends on which items it has been told of, and neither on their order nor on repetitions.
-/

namespace LatestWins

variable {α κ ν : Type} [DecidableEq κ] [LinearOrder ν] (key : α → κ) (version : α → ν)

/-- The first of the items of a key with the highest version. -/
def latest (l : List α) (k : κ) : Option α := (l.filter fun a => key a = k).argmax version

variable {key version} {l l' : List α} {a b c : α} {k : κ}

theorem of_latest_eq_some : latest key version l k = some a →
    a ∈ l ∧ key a = k ∧ ∀ b ∈ l, key b = k → version b ≤ version a := by
  intro h
  have hmem := List.argmax_mem h
  rw [List.mem_filter, decide_eq_true_eq] at hmem
  refine ⟨hmem.1, hmem.2, fun b hb hkey => ?_⟩
  apply List.le_of_mem_argmax _ h
  rw [List.mem_filter, decide_eq_true_eq]
  exact ⟨hb, hkey⟩

theorem latest_eq_none : latest key version l k = none ↔ ∀ a ∈ l, key a ≠ k := by
  rw [latest, List.argmax_eq_none, List.filter_eq_nil_iff]
  simp

/-- One more item, of the key. -/
theorem latest_concat (h : key a = k) :
    latest key version (l ++ [a]) k =
      match latest key version l k with
      | none => some a
      | some c => if version c < version a then some a else some c := by
  have hfilter : (l ++ [a]).filter (fun b => key b = k) = l.filter (fun b => key b = k) ++ [a] := by
    rw [List.filter_append]
    simp [h]
  rw [latest, latest, hfilter, List.argmax_concat]
  cases List.argmax version (l.filter fun b => key b = k) with
  | none => rfl
  | some c => rfl

/-- One more item, of another key. -/
theorem latest_concat_of_ne (h : key a ≠ k) :
    latest key version (l ++ [a]) k = latest key version l k := by
  rw [latest, latest, List.filter_append]
  simp [h]

/-- An item that repeats the key and the version of an earlier one changes nothing. -/
theorem latest_concat_of_known (hb : b ∈ l) (hkey : key a = key b) (hversion : version a = version b) :
    latest key version (l ++ [a]) k = latest key version l k := by
  by_cases h : key a = k
  swap
  · exact latest_concat_of_ne h
  rw [latest_concat h]
  cases hc : latest key version l k with
  | none => exact absurd (hkey.symm.trans h) (latest_eq_none.mp hc b hb)
  | some c =>
    have hle := (of_latest_eq_some hc).2.2 b hb (hkey.symm.trans h)
    exact if_neg (hversion ▸ not_lt.mpr hle)

/-- Versions never decrease. -/
theorem version_le_of_append (h : latest key version l k = some a) :
    ∃ b, latest key version (l ++ l') k = some b ∧ version a ≤ version b := by
  obtain ⟨ha, hkey, -⟩ := of_latest_eq_some h
  have hmem : a ∈ l ++ l' := List.mem_append_left _ ha
  cases hb : latest key version (l ++ l') k with
  | none => exact absurd hkey (latest_eq_none.mp hb a hmem)
  | some b => exact ⟨b, rfl, (of_latest_eq_some hb).2.2 a hmem hkey⟩

/-- Two sequences of the same items, up to a view of them, end in the same items, if an item is
determined by its key and its version as far as the view goes. -/
theorem map_latest_eq {β : Type} {view : α → β} (hkey : ∀ a b, view a = view b → key a = key b)
    (hversion : ∀ a b, view a = view b → version a = version b)
    (hdetermined : ∀ a ∈ l, ∀ b ∈ l, key a = key b → version a = version b → view a = view b)
    (hsame : ∀ v, (∃ a ∈ l, view a = v) ↔ ∃ a ∈ l', view a = v) (k : κ) :
    (latest key version l k).map view = (latest key version l' k).map view := by
  cases ha : latest key version l k with
  | none =>
    cases hb : latest key version l' k with
    | none => rfl
    | some b =>
      obtain ⟨hbmem, hbkey, -⟩ := of_latest_eq_some hb
      obtain ⟨a, hamem, hview⟩ := (hsame (view b)).mpr ⟨b, hbmem, rfl⟩
      exact absurd ((hkey a b hview).trans hbkey) (latest_eq_none.mp ha a hamem)
  | some a =>
    obtain ⟨hamem, hakey, hamax⟩ := of_latest_eq_some ha
    obtain ⟨a', ha', hview⟩ := (hsame (view a)).mp ⟨a, hamem, rfl⟩
    cases hb : latest key version l' k with
    | none => exact absurd ((hkey a' a hview).trans hakey) (latest_eq_none.mp hb a' ha')
    | some b =>
      obtain ⟨hbmem, hbkey, hbmax⟩ := of_latest_eq_some hb
      obtain ⟨b', hb', hview'⟩ := (hsame (view b)).mpr ⟨b, hbmem, rfl⟩
      have hle : version a ≤ version b :=
        hversion a' a hview ▸ hbmax a' ha' ((hkey a' a hview).trans hakey)
      have hge : version b ≤ version a :=
        hversion b' b hview' ▸ hamax b' hb' ((hkey b' b hview').trans hbkey)
      have heq : view a = view b' :=
        hdetermined a hamem b' hb' (hakey.trans ((hkey b' b hview').trans hbkey).symm)
          ((le_antisymm hle hge).trans (hversion b' b hview').symm)
      rw [Option.map_some, Option.map_some, heq, hview']

end LatestWins
