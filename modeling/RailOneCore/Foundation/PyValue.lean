import RailOneCore.Foundation.JsonDecoder

/-!
# Canonical JSON of the language's own values

`canonical_json_bytes` takes any value of the language: sequences and mappings of several types
(envelopes freeze lists to tuples and dictionaries to mapping proxies), keys that may not be text,
and values that are not JSON at all.  `PyValue.meaning` is what such a value is as a JSON value:
mappings are functions from keys, sequences are lists, and the container types are forgotten.

The encoder is canonical: the bytes of two accepted values are equal exactly when the values mean the
same, and the bytes decode to a value with that meaning.
-/

namespace RailOne

/-! ## Values -/

/-- The type of a sequence. -/
inductive SequenceKind
  | list | tuple | other
  deriving DecidableEq, Repr

/-- The type of a mapping. -/
inductive MappingKind
  | dict | proxy | other
  deriving DecidableEq, Repr

/-- A key of a mapping: text, or some other value. -/
inductive PyKey
  | str (s : String)
  | other (name : String)
  deriving DecidableEq, Repr

/-- A value of the language, as far as the encoder tells values apart. -/
inductive PyValue
  | none
  | bool (b : Bool)
  | int (n : Int)
  | float (literal : String)
  | str (s : String)
  | seq (kind : SequenceKind) (items : List PyValue)
  | map (kind : MappingKind) (fields : List (PyKey × PyValue))
  | other (typeName : String)
  deriving Repr, Inhabited

namespace PyValue

mutual

/-- The keys of every mapping in the value are distinct. -/
def DistinctKeys : PyValue → Prop
  | .seq _ items => DistinctKeysItems items
  | .map _ fields => (fields.map Prod.fst).Nodup ∧ DistinctKeysFields fields
  | _ => True

/-- The keys of every mapping in the items are distinct. -/
def DistinctKeysItems : List PyValue → Prop
  | [] => True
  | a :: t => DistinctKeys a ∧ DistinctKeysItems t

/-- The keys of every mapping in the values of the fields are distinct. -/
def DistinctKeysFields : List (PyKey × PyValue) → Prop
  | [] => True
  | (_, a) :: t => DistinctKeys a ∧ DistinctKeysFields t

end

/-! ## The encoder -/

mutual

/-- `_validate`. -/
def validate : PyValue → String → Except Exn Unit
  | .float _, path => .error ⟨.canonicalizationError,
      "floating-point value is forbidden at " ++ path ++ "; use integer minor units"⟩
  | .map _ fields, path => validateFields fields path
  | .seq _ items, path => validateItems items path 0
  | .other typeName, path => .error ⟨.canonicalizationError,
      "unsupported value of type " ++ typeName ++ " at " ++ path⟩
  | _, _ => .ok ()

/-- The items of a sequence, from the given index on. -/
def validateItems : List PyValue → String → ℕ → Except Exn Unit
  | [], _, _ => .ok ()
  | a :: t, path, i => do
    validate a (path ++ "[" ++ i.repr ++ "]")
    validateItems t path (i + 1)

/-- The fields of a mapping. -/
def validateFields : List (PyKey × PyValue) → String → Except Exn Unit
  | [], _ => .ok ()
  | (.other _, _) :: _, path => .error ⟨.canonicalizationError,
      "JSON object key must be a string at " ++ path⟩
  | (.str k, a) :: t, path => do
    validate a (path ++ "." ++ k)
    validateFields t path

end

mutual

/-- `_materialize`, together with the type errors of `json.dumps` (which validated values do not
raise). -/
def materialize : PyValue → Except Exn Json
  | .none => .ok .null
  | .bool b => .ok (.bool b)
  | .int n => .ok (.int n)
  | .float literal => .ok (.float literal)
  | .str s => .ok (.str s)
  | .seq _ items => do return .arr (← materializeItems items)
  | .map _ fields => do return .obj (← materializeFields fields)
  | .other typeName => .error ⟨.canonicalizationError,
      "Object of type " ++ typeName ++ " is not JSON serializable"⟩

/-- The items of a sequence. -/
def materializeItems : List PyValue → Except Exn (List Json)
  | [] => .ok []
  | a :: t => do return (← materialize a) :: (← materializeItems t)

/-- The fields of a mapping. -/
def materializeFields : List (PyKey × PyValue) → Except Exn Fields
  | [] => .ok []
  | (.other name, _) :: _ => .error ⟨.canonicalizationError,
      "keys must be str, int, float, bool or None, not " ++ name⟩
  | (.str k, a) :: t => do return (k, ← materialize a) :: (← materializeFields t)

end

/-- `canonical_json_bytes`. -/
def canonicalJsonBytes (value : PyValue) : Except Exn ByteArray := do
  value.validate "$"
  let json ← value.materialize
  return utf8Bytes (CanonicalJson.dumps (CanonicalJson.sortKeys json))

mutual

/-- `_freeze`. -/
def freeze : PyValue → PyValue
  | .map _ fields => .map .proxy (freezeFields fields)
  | .seq .other items => .seq .other items
  | .seq _ items => .seq .tuple (freezeItems items)
  | v => v

/-- Freeze the items of a sequence. -/
def freezeItems : List PyValue → List PyValue
  | [] => []
  | a :: t => freeze a :: freezeItems t

/-- Freeze the values of the fields. -/
def freezeFields : List (PyKey × PyValue) → List (PyKey × PyValue)
  | [] => []
  | (k, a) :: t => (k, freeze a) :: freezeFields t

end

mutual

/-- `_thaw`. -/
def thaw : PyValue → PyValue
  | .map _ fields => .map .dict (thawFields fields)
  | .seq .tuple items => .seq .list (thawItems items)
  | v => v

/-- Thaw the items of a sequence. -/
def thawItems : List PyValue → List PyValue
  | [] => []
  | a :: t => thaw a :: thawItems t

/-- Thaw the values of the fields. -/
def thawFields : List (PyKey × PyValue) → List (PyKey × PyValue)
  | [] => []
  | (k, a) :: t => (k, thaw a) :: thawFields t

end

end PyValue

mutual

/-- The value that `json.loads` returns for JSON. -/
def Json.toPy : Json → PyValue
  | .null => .none
  | .bool b => .bool b
  | .int n => .int n
  | .float literal => .float literal
  | .str s => .str s
  | .arr items => .seq .list (Json.itemsToPy items)
  | .obj fields => .map .dict (Json.fieldsToPy fields)

/-- The items of an array. -/
def Json.itemsToPy : List Json → List PyValue
  | [] => []
  | a :: t => a.toPy :: Json.itemsToPy t

/-- The fields of an object. -/
def Json.fieldsToPy : Fields → List (PyKey × PyValue)
  | [] => []
  | (k, a) :: t => (.str k, a.toPy) :: Json.fieldsToPy t

end

/-! ## What values mean -/

/-- A JSON value: sequences are lists, mappings are functions. -/
inductive Meaning
  | null
  | bool (b : Bool)
  | int (n : Int)
  | float (literal : String)
  | str (s : String)
  | arr (items : List Meaning)
  | obj (fields : PyKey → Option Meaning)
  | other (typeName : String)

namespace PyValue

mutual

/-- The JSON value that a value is. -/
def meaning : PyValue → Meaning
  | .none => .null
  | .bool b => .bool b
  | .int n => .int n
  | .float literal => .float literal
  | .str s => .str s
  | .seq _ items => .arr (meaningItems items)
  | .map _ fields => .obj (meaningFields fields)
  | .other typeName => .other typeName

/-- The JSON values of the items. -/
def meaningItems : List PyValue → List Meaning
  | [] => []
  | a :: t => meaning a :: meaningItems t

/-- The JSON value under a key. -/
def meaningFields : List (PyKey × PyValue) → PyKey → Option Meaning
  | [], _ => Option.none
  | (k, a) :: t, key => if key = k then some (meaning a) else meaningFields t key

end

/-! ## Container types do not matter -/

mutual

theorem validate_freeze : ∀ (v : PyValue) (path : String), v.freeze.validate path = v.validate path
  | .none, _ | .bool _, _ | .int _, _ | .float _, _ | .str _, _ | .other _, _ => rfl
  | .map _ fields, path => by
    rw [freeze, validate, validate, validateFields_freeze]
  | .seq .other items, path => rfl
  | .seq .list items, path => by
    rw [freeze, validate, validate, validateItems_freeze]
    exact nofun
  | .seq .tuple items, path => by
    rw [freeze, validate, validate, validateItems_freeze]
    exact nofun

theorem validateItems_freeze : ∀ (l : List PyValue) (path : String) (i : ℕ),
    validateItems (freezeItems l) path i = validateItems l path i
  | [], _, _ => rfl
  | a :: t, path, i => by
    rw [freezeItems, validateItems, validateItems, validate_freeze, validateItems_freeze]

theorem validateFields_freeze : ∀ (l : List (PyKey × PyValue)) (path : String),
    validateFields (freezeFields l) path = validateFields l path
  | [], _ => rfl
  | (.other _, _) :: _, _ => rfl
  | (.str k, a) :: t, path => by
    rw [freezeFields, validateFields, validateFields, validate_freeze, validateFields_freeze]

end

mutual

theorem materialize_freeze : ∀ v : PyValue, v.freeze.materialize = v.materialize
  | .none | .bool _ | .int _ | .float _ | .str _ | .other _ => rfl
  | .map _ fields => by rw [freeze, materialize, materialize, materializeFields_freeze]
  | .seq .other items => rfl
  | .seq .list items => by
    rw [freeze, materialize, materialize, materializeItems_freeze]
    exact nofun
  | .seq .tuple items => by
    rw [freeze, materialize, materialize, materializeItems_freeze]
    exact nofun

theorem materializeItems_freeze : ∀ l : List PyValue,
    materializeItems (freezeItems l) = materializeItems l
  | [] => rfl
  | a :: t => by
    rw [freezeItems, materializeItems, materializeItems, materialize_freeze,
      materializeItems_freeze]

theorem materializeFields_freeze : ∀ l : List (PyKey × PyValue),
    materializeFields (freezeFields l) = materializeFields l
  | [] => rfl
  | (.other _, _) :: _ => rfl
  | (.str k, a) :: t => by
    rw [freezeFields, materializeFields, materializeFields, materialize_freeze,
      materializeFields_freeze]

end

mutual

theorem validate_thaw : ∀ (v : PyValue) (path : String), v.thaw.validate path = v.validate path
  | .none, _ | .bool _, _ | .int _, _ | .float _, _ | .str _, _ | .other _, _ => rfl
  | .map _ fields, path => by rw [thaw, validate, validate, validateFields_thaw]
  | .seq .other items, path | .seq .list items, path => rfl
  | .seq .tuple items, path => by rw [thaw, validate, validate, validateItems_thaw]

theorem validateItems_thaw : ∀ (l : List PyValue) (path : String) (i : ℕ),
    validateItems (thawItems l) path i = validateItems l path i
  | [], _, _ => rfl
  | a :: t, path, i => by
    rw [thawItems, validateItems, validateItems, validate_thaw, validateItems_thaw]

theorem validateFields_thaw : ∀ (l : List (PyKey × PyValue)) (path : String),
    validateFields (thawFields l) path = validateFields l path
  | [], _ => rfl
  | (.other _, _) :: _, _ => rfl
  | (.str k, a) :: t, path => by
    rw [thawFields, validateFields, validateFields, validate_thaw, validateFields_thaw]

end

mutual

theorem materialize_thaw : ∀ v : PyValue, v.thaw.materialize = v.materialize
  | .none | .bool _ | .int _ | .float _ | .str _ | .other _ => rfl
  | .map _ fields => by rw [thaw, materialize, materialize, materializeFields_thaw]
  | .seq .other items | .seq .list items => rfl
  | .seq .tuple items => by rw [thaw, materialize, materialize, materializeItems_thaw]

theorem materializeItems_thaw : ∀ l : List PyValue,
    materializeItems (thawItems l) = materializeItems l
  | [] => rfl
  | a :: t => by
    rw [thawItems, materializeItems, materializeItems, materialize_thaw, materializeItems_thaw]

theorem materializeFields_thaw : ∀ l : List (PyKey × PyValue),
    materializeFields (thawFields l) = materializeFields l
  | [] => rfl
  | (.other _, _) :: _ => rfl
  | (.str k, a) :: t => by
    rw [thawFields, materializeFields, materializeFields, materialize_thaw, materializeFields_thaw]

end

/-- Frozen values have the bytes of the values they were made from. -/
theorem canonicalJsonBytes_freeze (v : PyValue) :
    v.freeze.canonicalJsonBytes = v.canonicalJsonBytes := by
  rw [canonicalJsonBytes, canonicalJsonBytes, validate_freeze, materialize_freeze]

/-- Thawed values have the bytes of the values they were made from. -/
theorem canonicalJsonBytes_thaw (v : PyValue) :
    v.thaw.canonicalJsonBytes = v.canonicalJsonBytes := by
  rw [canonicalJsonBytes, canonicalJsonBytes, validate_thaw, materialize_thaw]

/-! ## Validated values are JSON -/

mutual

/-- A validated value is materialized to JSON that the encoder accepts, with the same meaning. -/
theorem exists_materialize : ∀ (v : PyValue) (path : String), v.validate path = .ok () →
    ∃ j, v.materialize = .ok j ∧ CanonicalJson.Accepted j ∧ (v.DistinctKeys → j.DistinctKeys) ∧
      j.toPy.meaning = v.meaning
  | .none, _, _ => ⟨.null, rfl, trivial, fun _ => trivial, rfl⟩
  | .bool b, _, _ => ⟨.bool b, rfl, trivial, fun _ => trivial, rfl⟩
  | .int n, _, _ => ⟨.int n, rfl, trivial, fun _ => trivial, rfl⟩
  | .str s, _, _ => ⟨.str s, rfl, trivial, fun _ => trivial, rfl⟩
  | .seq _ items, path, h => by
    obtain ⟨l, hl, haccepted, hdistinct, hmeaning⟩ := exists_materializeItems items path 0 h
    exact ⟨.arr l, by rw [materialize, hl]; rfl, haccepted, hdistinct,
      congrArg Meaning.arr hmeaning⟩
  | .map _ fields, path, h => by
    obtain ⟨l, hl, hkeys, haccepted, hdistinct, hmeaning⟩ :=
      exists_materializeFields fields path h
    refine ⟨.obj l, by rw [materialize, hl]; rfl, haccepted, fun hd => ⟨?_, hdistinct hd.2⟩,
      congrArg Meaning.obj hmeaning⟩
    have hnd := hd.1
    rw [← hkeys] at hnd
    exact List.Nodup.of_map PyKey.str (by simpa [Function.comp_def] using hnd)

theorem exists_materializeItems : ∀ (l : List PyValue) (path : String) (i : ℕ),
    validateItems l path i = .ok () →
    ∃ t, materializeItems l = .ok t ∧ CanonicalJson.AcceptedItems t ∧
      (DistinctKeysItems l → Json.DistinctKeysItems t) ∧
      meaningItems (Json.itemsToPy t) = meaningItems l
  | [], _, _, _ => ⟨[], rfl, trivial, fun _ => trivial, rfl⟩
  | a :: l, path, i, h => by
    rw [validateItems, bind_eq_ok] at h
    obtain ⟨_, ha, hl⟩ := h
    obtain ⟨j, hj, hja, hjd, hjm⟩ := exists_materialize a _ ha
    obtain ⟨t, ht, hta, htd, htm⟩ := exists_materializeItems l path (i + 1) hl
    refine ⟨j :: t, by rw [materializeItems, hj, ht]; rfl, ⟨hja, hta⟩,
      fun hd => ⟨hjd hd.1, htd hd.2⟩, ?_⟩
    rw [Json.itemsToPy, meaningItems, meaningItems, hjm, htm]

theorem exists_materializeFields : ∀ (l : List (PyKey × PyValue)) (path : String),
    validateFields l path = .ok () →
    ∃ t, materializeFields l = .ok t ∧ t.map (fun f => PyKey.str f.1) = l.map Prod.fst ∧
      CanonicalJson.AcceptedFields t ∧ (DistinctKeysFields l → Json.DistinctKeysFields t) ∧
      meaningFields (Json.fieldsToPy t) = meaningFields l
  | [], _, _ => ⟨[], rfl, rfl, trivial, fun _ => trivial, rfl⟩
  | (.other _, _) :: _, _, h => by cases h
  | (.str k, a) :: l, path, h => by
    rw [validateFields, bind_eq_ok] at h
    obtain ⟨_, ha, hl⟩ := h
    obtain ⟨j, hj, hja, hjd, hjm⟩ := exists_materialize a _ ha
    obtain ⟨t, ht, htk, hta, htd, htm⟩ := exists_materializeFields l path hl
    refine ⟨(k, j) :: t, by rw [materializeFields, hj, ht]; rfl, by simp [htk], ⟨hja, hta⟩,
      fun hd => ⟨hjd hd.1, htd hd.2⟩, ?_⟩
    funext key
    rw [Json.fieldsToPy, meaningFields, meaningFields, hjm, htm]

end

/-- The bytes of a value are those of the JSON that it is materialized to. -/
theorem canonicalJsonBytes_eq_ok {v : PyValue} {bytes : ByteArray}
    (h : v.canonicalJsonBytes = .ok bytes) :
    ∃ j, RailOne.canonicalJsonBytes j = .ok bytes ∧ (v.DistinctKeys → j.DistinctKeys) ∧
      j.toPy.meaning = v.meaning := by
  simp only [canonicalJsonBytes, bind_eq_ok, pure_eq_ok] at h
  obtain ⟨_, hvalid, j, hj, rfl⟩ := h
  obtain ⟨j', hj', haccepted, hdistinct, hmeaning⟩ := exists_materialize v "$" hvalid
  rw [hj, Except.ok.injEq] at hj'
  subst hj'
  exact ⟨j, RailOne.canonicalJsonBytes_eq_ok.mpr ⟨haccepted, rfl⟩, hdistinct, hmeaning⟩

end PyValue

/-! ## JSON among the values -/

namespace Json

mutual

theorem validate_toPy : ∀ (j : Json) (path : String),
    j.toPy.validate path = CanonicalJson.validate j path
  | .null, _ | .bool _, _ | .int _, _ | .float _, _ | .str _, _ => rfl
  | .arr items, path => validate_itemsToPy items path 0
  | .obj fields, path => validate_fieldsToPy fields path

theorem validate_itemsToPy : ∀ (l : List Json) (path : String) (i : ℕ),
    PyValue.validateItems (itemsToPy l) path i = CanonicalJson.validateItems l path i
  | [], _, _ => rfl
  | a :: t, path, i => by
    rw [itemsToPy, PyValue.validateItems, CanonicalJson.validateItems, validate_toPy,
      validate_itemsToPy]

theorem validate_fieldsToPy : ∀ (l : Fields) (path : String),
    PyValue.validateFields (fieldsToPy l) path = CanonicalJson.validateFields l path
  | [], _ => rfl
  | (k, a) :: t, path => by
    rw [fieldsToPy, PyValue.validateFields, CanonicalJson.validateFields, validate_toPy,
      validate_fieldsToPy]

end

mutual

theorem materialize_toPy : ∀ j : Json, j.toPy.materialize = .ok j
  | .null | .bool _ | .int _ | .float _ | .str _ => rfl
  | .arr items => by
    rw [toPy, PyValue.materialize, materialize_itemsToPy]
    rfl
  | .obj fields => by
    rw [toPy, PyValue.materialize, materialize_fieldsToPy]
    rfl

theorem materialize_itemsToPy : ∀ l : List Json, PyValue.materializeItems (itemsToPy l) = .ok l
  | [] => rfl
  | a :: t => by
    rw [itemsToPy, PyValue.materializeItems, materialize_toPy, materialize_itemsToPy]
    rfl

theorem materialize_fieldsToPy : ∀ l : Fields, PyValue.materializeFields (fieldsToPy l) = .ok l
  | [] => rfl
  | (k, a) :: t => by
    rw [fieldsToPy, PyValue.materializeFields, materialize_toPy, materialize_fieldsToPy]
    rfl

end

/-- JSON has the same bytes as the value it is read to. -/
theorem canonicalJsonBytes_toPy (j : Json) :
    j.toPy.canonicalJsonBytes = canonicalJsonBytes j := by
  rw [PyValue.canonicalJsonBytes, canonicalJsonBytes, validate_toPy, materialize_toPy]
  rfl

theorem fieldsToPy_eq_map : ∀ l : Fields, fieldsToPy l = l.map fun f => (.str f.1, f.2.toPy)
  | [] => rfl
  | (_, _) :: t => congrArg (_ :: ·) (fieldsToPy_eq_map t)

mutual

theorem distinctKeys_toPy : ∀ j : Json, j.DistinctKeys → j.toPy.DistinctKeys
  | .null, _ | .bool _, _ | .int _, _ | .float _, _ | .str _, _ => trivial
  | .arr items, h => distinctKeys_itemsToPy items h
  | .obj fields, h => by
    refine ⟨?_, distinctKeys_fieldsToPy fields h.2⟩
    have hkeys : (fieldsToPy fields).map Prod.fst = (fields.map Prod.fst).map PyKey.str := by
      rw [fieldsToPy_eq_map, List.map_map, List.map_map]
      rfl
    rw [hkeys]
    exact h.1.map fun _ _ hk => PyKey.str.inj hk

theorem distinctKeys_itemsToPy : ∀ l : List Json, DistinctKeysItems l →
    PyValue.DistinctKeysItems (itemsToPy l)
  | [], _ => trivial
  | a :: t, h => ⟨distinctKeys_toPy a h.1, distinctKeys_itemsToPy t h.2⟩

theorem distinctKeys_fieldsToPy : ∀ l : Fields, DistinctKeysFields l →
    PyValue.DistinctKeysFields (fieldsToPy l)
  | [], _ => trivial
  | (_, a) :: t, h => ⟨distinctKeys_toPy a h.1, distinctKeys_fieldsToPy t h.2⟩

end

end Json

/-! ## Sorting keys keeps the meaning, and the meaning determines the sorted value -/

open CanonicalJson

/-- What an object has under a key. -/
theorem meaningFields_fieldsToPy (l : Fields) (k : String) :
    PyValue.meaningFields (Json.fieldsToPy l) (.str k) =
      (l.lookup k).map fun a => a.toPy.meaning := by
  induction l with
  | nil => rfl
  | cons f t ih =>
    obtain ⟨k', a⟩ := f
    rw [Json.fieldsToPy, PyValue.meaningFields, List.lookup_cons, ih]
    by_cases hk : k = k'
    · simp [hk]
    · simp [hk, beq_eq_false_iff_ne.mpr hk]

theorem meaningFields_fieldsToPy_other (l : Fields) (name : String) :
    PyValue.meaningFields (Json.fieldsToPy l) (.other name) = none := by
  induction l with
  | nil => rfl
  | cons f t ih =>
    obtain ⟨k', a⟩ := f
    rw [Json.fieldsToPy, PyValue.meaningFields, if_neg (by simp), ih]

mutual

theorem meaning_sortKeys : ∀ j : Json, j.DistinctKeys →
    (sortKeys j).toPy.meaning = j.toPy.meaning
  | .null, _ | .bool _, _ | .int _, _ | .float _, _ | .str _, _ => rfl
  | .arr items, h => congrArg Meaning.arr (meaning_sortKeysItems items h)
  | .obj fields, h => by
    obtain ⟨s, hs⟩ : ∃ s, sortKeys (.obj fields) = .obj s := ⟨_, rfl⟩
    rw [hs]
    refine congrArg Meaning.obj (funext fun key => ?_)
    cases key with
    | other name => rw [meaningFields_fieldsToPy_other, meaningFields_fieldsToPy_other]
    | str k =>
      rw [meaningFields_fieldsToPy, meaningFields_fieldsToPy, lookup_sortKeys h.1 hs k,
        Option.map_map]
      cases hk : fields.lookup k with
      | none => rfl
      | some a => exact congrArg some (meaning_sortKeysFields fields h.2 k a hk)

theorem meaning_sortKeysItems : ∀ l : List Json, Json.DistinctKeysItems l →
    PyValue.meaningItems (Json.itemsToPy (sortKeysItems l)) =
      PyValue.meaningItems (Json.itemsToPy l)
  | [], _ => rfl
  | a :: t, h => by
    rw [sortKeysItems, Json.itemsToPy, PyValue.meaningItems, meaning_sortKeys a h.1,
      meaning_sortKeysItems t h.2, Json.itemsToPy, PyValue.meaningItems]

theorem meaning_sortKeysFields : ∀ l : Fields, Json.DistinctKeysFields l → ∀ k a,
    l.lookup k = some a → (sortKeys a).toPy.meaning = a.toPy.meaning
  | [], _, k, a, h => by cases h
  | (k', b) :: t, h, k, a, hk => by
    rw [List.lookup_cons] at hk
    split at hk
    · cases hk
      exact meaning_sortKeys b h.1
    · exact meaning_sortKeysFields t h.2 k a hk

end

/-- Fields under distinct keys, once their keys are sorted, are determined by what is under each
key. -/
theorem insertionSort_eq_of_lookup {l l' : Fields} (hl : (l.map Prod.fst).Nodup)
    (hl' : (l'.map Prod.fst).Nodup) (h : ∀ k, l.lookup k = l'.lookup k) :
    l.insertionSort (fun a b => a.1 ≤ b.1) = l'.insertionSort fun a b => a.1 ≤ b.1 := by
  have hmem : ∀ {m : Fields}, (m.map Prod.fst).Nodup → ∀ f : String × Json,
      f ∈ m ↔ m.lookup f.1 = some f.2 := by
    intro m hm f
    constructor
    · exact fun hf => Ordered.Dict.get?_of_mem (d := ⟨m, hm⟩) hf
    · intro hf
      obtain ⟨l₁, l₂, heq⟩ := Ordered.Dict.entries_of_get? (d := ⟨m, hm⟩) hf
      have heq' : m = l₁ ++ (f.1, f.2) :: l₂ := heq
      rw [heq']
      simp
  have hperm : l.Perm l' := by
    refine (List.perm_ext_iff_of_nodup (List.Nodup.of_map _ hl) (List.Nodup.of_map _ hl')).mpr ?_
    intro f
    rw [hmem hl, hmem hl', h]
  have hstrict : ∀ {m : Fields}, (m.map Prod.fst).Nodup →
      (m.insertionSort fun a b => a.1 ≤ b.1).Pairwise fun a b => a.1 < b.1 := by
    intro m hm
    have htotal : Std.Total fun a b : String × Json => a.1 ≤ b.1 := ⟨fun a b => le_total a.1 b.1⟩
    have htrans : IsTrans (String × Json) fun a b => a.1 ≤ b.1 := ⟨fun _ _ _ => le_trans⟩
    have hsorted := List.pairwise_insertionSort (fun a b : String × Json => a.1 ≤ b.1) m
    have hnd : ((m.insertionSort fun a b => a.1 ≤ b.1).map Prod.fst).Nodup :=
      ((List.perm_insertionSort _ m).map Prod.fst).nodup_iff.mpr hm
    have hne := List.pairwise_map.mp hnd
    exact hsorted.imp₂ (fun _ _ hle hne => lt_of_le_of_ne hle hne) hne
  have hboth : (l.insertionSort fun a b => a.1 ≤ b.1).Perm
      (l'.insertionSort fun a b => a.1 ≤ b.1) :=
    (List.perm_insertionSort _ l).trans (hperm.trans (List.perm_insertionSort _ l').symm)
  exact List.Perm.eq_of_pairwise (fun a b _ _ hab hba => absurd hba (lt_asymm hab)) (hstrict hl)
    (hstrict hl') hboth

theorem distinctKeys_of_lookup {l : Fields} {k : String} {a : Json}
    (h : Json.DistinctKeysFields l) (hk : l.lookup k = some a) : a.DistinctKeys := by
  induction l with
  | nil => cases hk
  | cons f t ih =>
    obtain ⟨k', b⟩ := f
    rw [List.lookup_cons] at hk
    split at hk
    · cases hk
      exact h.1
    · exact ih h.2 hk

mutual

theorem sortKeys_eq_of_meaning : ∀ a b : Json, a.DistinctKeys → b.DistinctKeys →
    a.toPy.meaning = b.toPy.meaning → sortKeys a = sortKeys b
  | .null, b, _, _, h => by cases b <;> cases h; rfl
  | .bool _, b, _, _, h => by cases b <;> cases h; rfl
  | .int _, b, _, _, h => by cases b <;> cases h; rfl
  | .float _, b, _, _, h => by cases b <;> cases h; rfl
  | .str _, b, _, _, h => by cases b <;> cases h; rfl
  | .arr s, b, ha, hb, h => by
    cases b with
    | arr t =>
      have hitems : PyValue.meaningItems (Json.itemsToPy s) =
          PyValue.meaningItems (Json.itemsToPy t) := Meaning.arr.inj h
      rw [sortKeys, sortKeys, sortKeysItems_eq_of_meaning s t ha hb hitems]
    | _ => cases h
  | .obj s, b, ha, hb, h => by
    cases b with
    | obj t =>
      have hfields : PyValue.meaningFields (Json.fieldsToPy s) =
          PyValue.meaningFields (Json.fieldsToPy t) := Meaning.obj.inj h
      rw [sortKeys, sortKeys, Json.obj.injEq]
      refine insertionSort_eq_of_lookup (by rw [keys_sortKeysFields]; exact ha.1)
        (by rw [keys_sortKeysFields]; exact hb.1) fun k => ?_
      have hk := congrFun hfields (.str k)
      rw [meaningFields_fieldsToPy, meaningFields_fieldsToPy] at hk
      rw [lookup_sortKeysFields, lookup_sortKeysFields]
      cases hs : s.lookup k with
      | none =>
        rw [hs] at hk
        cases ht : t.lookup k with
        | none => rfl
        | some _ => rw [ht] at hk; cases hk
      | some a =>
        rw [hs] at hk
        cases ht : t.lookup k with
        | none => rw [ht] at hk; cases hk
        | some c =>
          rw [ht, Option.map_some, Option.map_some, Option.some.injEq] at hk
          have hc : c.DistinctKeys := distinctKeys_of_lookup hb.2 ht
          exact congrArg some (sortKeysFields_eq_of_meaning s ha.2 k a hs c hc hk)
    | _ => cases h

theorem sortKeysItems_eq_of_meaning : ∀ s t : List Json, Json.DistinctKeysItems s →
    Json.DistinctKeysItems t →
    PyValue.meaningItems (Json.itemsToPy s) = PyValue.meaningItems (Json.itemsToPy t) →
    sortKeysItems s = sortKeysItems t
  | [], [], _, _, _ => rfl
  | [], _ :: _, _, _, h => by cases h
  | _ :: _, [], _, _, h => by cases h
  | a :: s, b :: t, ha, hb, h => by
    rw [Json.itemsToPy, Json.itemsToPy, PyValue.meaningItems, PyValue.meaningItems,
      List.cons.injEq] at h
    rw [sortKeysItems, sortKeysItems, sortKeys_eq_of_meaning a b ha.1 hb.1 h.1,
      sortKeysItems_eq_of_meaning s t ha.2 hb.2 h.2]

theorem sortKeysFields_eq_of_meaning : ∀ s : Fields, Json.DistinctKeysFields s → ∀ k a,
    s.lookup k = some a → ∀ b : Json, b.DistinctKeys → a.toPy.meaning = b.toPy.meaning →
    sortKeys a = sortKeys b
  | [], _, k, a, hk, _, _, _ => by cases hk
  | (k', c) :: s, hs, k, a, hk, b, hb, h => by
    rw [List.lookup_cons] at hk
    split at hk
    · cases hk
      exact sortKeys_eq_of_meaning c b hs.1 hb h
    · exact sortKeysFields_eq_of_meaning s hs.2 k a hk b hb h

end

/-- `canonical_json_bytes` is a canonical encoding: accepted values have equal bytes exactly when they
are equal as JSON values, frozen and thawed values have the bytes of their originals, and the bytes
decode to the value. -/
theorem canonical_encoding {a b : PyValue} (ha : a.DistinctKeys) (hb : b.DistinctKeys)
    {x y : ByteArray} (hx : a.canonicalJsonBytes = .ok x) (hy : b.canonicalJsonBytes = .ok y) :
    (x = y ↔ a.meaning = b.meaning) ∧ a.freeze.canonicalJsonBytes = .ok x ∧
      a.thaw.canonicalJsonBytes = .ok x ∧
      ∃ j, jsonDecode x = some j ∧ j.toPy.meaning = a.meaning := by
  obtain ⟨j, hj, hjd, hjm⟩ := PyValue.canonicalJsonBytes_eq_ok hx
  obtain ⟨k, hk, hkd, hkm⟩ := PyValue.canonicalJsonBytes_eq_ok hy
  refine ⟨⟨?_, fun h => ?_⟩, ?_, ?_, sortKeys j, ?_, ?_⟩
  · rintro rfl
    rw [← hjm, ← hkm, ← meaning_sortKeys j (hjd ha), ← meaning_sortKeys k (hkd hb),
      canonicalJsonBytes_inj hj hk]
  · have hsorted := sortKeys_eq_of_meaning j k (hjd ha) (hkd hb) (hjm.trans (h.trans hkm.symm))
    rw [(canonicalJsonBytes_eq_ok.mp hj).2, (canonicalJsonBytes_eq_ok.mp hk).2, hsorted]
  · rw [PyValue.canonicalJsonBytes_freeze]
    exact hx
  · rw [PyValue.canonicalJsonBytes_thaw]
    exact hx
  · obtain ⟨haccepted, rfl⟩ := canonicalJsonBytes_eq_ok.mp hj
    exact jsonDecode_utf8Bytes (accepted_sortKeys j haccepted) (distinctKeys_sortKeys j (hjd ha))
  · rw [meaning_sortKeys j (hjd ha), hjm]

/-- Two frozen and thawed payloads whose keys were inserted in different orders. -/
theorem canonical_encoding_sample :
    ∃ x, (PyValue.map .dict [(.str "b", .seq .list [.int 1, .bool true]),
        (.str "a", .str "\"\n")]).canonicalJsonBytes = .ok x ∧
      (PyValue.map .proxy [(.str "a", .str "\"\n"),
        (.str "b", .seq .tuple [.int 1, .bool true])]).canonicalJsonBytes = .ok x := by
  have hx : ∃ x, (PyValue.map .dict [(.str "b", .seq .list [.int 1, .bool true]),
      (.str "a", .str "\"\n")]).canonicalJsonBytes = .ok x := ⟨_, rfl⟩
  have hy : ∃ y, (PyValue.map .proxy [(.str "a", .str "\"\n"),
      (.str "b", .seq .tuple [.int 1, .bool true])]).canonicalJsonBytes = .ok y := ⟨_, rfl⟩
  obtain ⟨x, hx⟩ := hx
  obtain ⟨y, hy⟩ := hy
  have hmeaning : (PyValue.map .dict [(.str "b", .seq .list [.int 1, .bool true]),
      (.str "a", .str "\"\n")]).meaning = (PyValue.map .proxy [(.str "a", .str "\"\n"),
      (.str "b", .seq .tuple [.int 1, .bool true])]).meaning := by
    refine congrArg Meaning.obj (funext fun key => ?_)
    simp only [PyValue.meaningFields]
    split_ifs with h₁ h₂
    · subst h₁
      exact absurd h₂ (by decide)
    · rfl
    · rfl
    · rfl
  have heq := (canonical_encoding (by simp [PyValue.DistinctKeys, PyValue.DistinctKeysFields,
    PyValue.DistinctKeysItems]) (by simp [PyValue.DistinctKeys, PyValue.DistinctKeysFields,
    PyValue.DistinctKeysItems]) hx hy).1.mpr hmeaning
  exact ⟨x, hx, heq ▸ hy⟩

end RailOne
