import RailOneCore.Foundation.PyValue

/-!
# Equality of the language's own values

`==` on the values that canonical JSON accepts: dictionaries are equal as functions, a list is never
equal to a tuple, and `True` equals 1.  What was read from JSON comes back from freezing and thawing as
it was, and equals itself.
-/

namespace RailOne

namespace PyValue

mutual

/-- `a == b`.  A floating-point number, and a value of a type that is not modelled, counts as different
from everything: canonical JSON refuses both before anything is compared. -/
def same : PyValue → PyValue → Bool
  | .none, .none => true
  | .bool b, .bool c => b == c
  | .bool b, .int n => (if b then 1 else 0) == n
  | .int n, .bool b => n == if b then 1 else 0
  | .int m, .int n => m == n
  | .str s, .str t => s == t
  | .seq kind items, .seq kind' items' => kind == kind' && sameItems items items'
  | .map _ fields, .map _ fields' => fields.length == fields'.length && sameFields fields fields'
  | _, _ => false

/-- Two sequences are equal item by item. -/
def sameItems : List PyValue → List PyValue → Bool
  | [], [] => true
  | a :: t, b :: u => same a b && sameItems t u
  | _, _ => false

/-- Every field has an equal value under its key among the others. -/
def sameFields : List (PyKey × PyValue) → List (PyKey × PyValue) → Bool
  | [], _ => true
  | (k, a) :: t, fields =>
    (match fields.lookup k with
      | some b => same a b
      | Option.none => false) && sameFields t fields

end

mutual

/-- What was read from JSON is the same after freezing and thawing. -/
theorem thaw_freeze_toPy : ∀ j : Json, j.toPy.freeze.thaw = j.toPy
  | .null | .bool _ | .int _ | .float _ | .str _ => rfl
  | .arr items => by
    have hitems := thawItems_freezeItems_toPy items
    rw [Json.toPy, freeze, thaw, hitems]
    exact nofun
  | .obj fields => by
    have hfields := thawFields_freezeFields_toPy fields
    rw [Json.toPy, freeze, thaw, hfields]

theorem thawItems_freezeItems_toPy : ∀ l : List Json,
    thawItems (freezeItems (Json.itemsToPy l)) = Json.itemsToPy l
  | [] => rfl
  | a :: t => by
    rw [Json.itemsToPy, freezeItems, thawItems, thaw_freeze_toPy a, thawItems_freezeItems_toPy t]

theorem thawFields_freezeFields_toPy : ∀ l : Fields,
    thawFields (freezeFields (Json.fieldsToPy l)) = Json.fieldsToPy l
  | [] => rfl
  | (k, a) :: t => by
    rw [Json.fieldsToPy, freezeFields, thawFields, thaw_freeze_toPy a, thawFields_freezeFields_toPy t]

end

/-- A field of a mapping is found under its key. -/
theorem lookup_of_mem {fields : List (PyKey × PyValue)} (h : (fields.map Prod.fst).Nodup) {k : PyKey}
    {a : PyValue} (hmem : (k, a) ∈ fields) : fields.lookup k = some a := by
  induction fields with
  | nil => cases hmem
  | cons f t ih =>
    obtain ⟨k', a'⟩ := f
    obtain ⟨hfresh, ht⟩ := List.nodup_cons.mp h
    rw [List.lookup_cons]
    rcases List.mem_cons.mp hmem with heq | hin
    · cases heq
      rw [beq_self_eq_true]
    · have hne : k ≠ k' := by
        rintro rfl
        exact hfresh (List.mem_map.mpr ⟨(k, a), hin, rfl⟩)
      rw [beq_eq_false_iff_ne.mpr hne]
      exact ih ht hin

mutual

/-- What was read from JSON that the encoder accepts equals itself. -/
theorem same_toPy : ∀ j : Json, CanonicalJson.Accepted j → j.DistinctKeys → same j.toPy j.toPy = true
  | .null, _, _ => rfl
  | .bool b, _, _ => beq_self_eq_true b
  | .int n, _, _ => beq_self_eq_true n
  | .str s, _, _ => beq_self_eq_true s
  | .arr items, ha, hd => by
    rw [Json.toPy, same, sameItems_toPy items ha hd, beq_self_eq_true]
    rfl
  | .obj fields, ha, hd => by
    have hpy : (Json.obj fields).toPy.DistinctKeys := Json.distinctKeys_toPy _ hd
    rw [Json.toPy, same, beq_self_eq_true, sameFields_toPy fields ha hd.2 (Json.fieldsToPy fields) hpy.1
      fun _ h => h]
    rfl

theorem sameItems_toPy : ∀ l : List Json, CanonicalJson.AcceptedItems l → Json.DistinctKeysItems l →
    sameItems (Json.itemsToPy l) (Json.itemsToPy l) = true
  | [], _, _ => rfl
  | a :: t, ha, hd => by
    rw [Json.itemsToPy, sameItems, same_toPy a ha.1 hd.1, sameItems_toPy t ha.2 hd.2]
    rfl

theorem sameFields_toPy : ∀ l : Fields, CanonicalJson.AcceptedFields l → Json.DistinctKeysFields l →
    ∀ fields : List (PyKey × PyValue), (fields.map Prod.fst).Nodup →
      (∀ f ∈ Json.fieldsToPy l, f ∈ fields) → sameFields (Json.fieldsToPy l) fields = true
  | [], _, _, _, _, _ => rfl
  | (k, a) :: t, ha, hd, fields, hnodup, hmem => by
    have hlookup := lookup_of_mem hnodup (hmem _ List.mem_cons_self)
    rw [Json.fieldsToPy, sameFields, hlookup, sameFields_toPy t ha.2 hd.2 fields hnodup
      fun f hf => hmem f (List.mem_cons_of_mem _ hf)]
    exact (Bool.and_true _).trans (same_toPy a ha.1 hd.1)

end

end PyValue

end RailOne
