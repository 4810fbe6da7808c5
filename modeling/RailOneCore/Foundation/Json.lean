import RailOneCore.Foundation.Text

/-!
# JSON values

The values that RailOne signs, hashes and reads back.  Objects are lists of fields in insertion
order.  A floating-point number keeps only its literal: the canonical encoder refuses it and no
modelled code computes with it.

Reading follows the source: `payload["k"]` raises when the key is missing (`item`), `payload.get("k")`
does not (`get`), and a value is used as an integer, a text or an object only when it is one.
-/

namespace RailOne

/-- A JSON value. -/
inductive Json
  | null
  | bool (b : Bool)
  | int (n : Int)
  | float (literal : String)
  | str (s : String)
  | arr (items : List Json)
  | obj (fields : List (String × Json))
  deriving Repr, Inhabited

/-- The fields of an object, in insertion order. -/
abbrev Fields := List (String × Json)

namespace Json

/-! ## Decidable equality -/

mutual

/-- Structural equality test. -/
def beq : Json → Json → Bool
  | .null, .null => true
  | .bool a, .bool b => a == b
  | .int a, .int b => a == b
  | .float a, .float b => a == b
  | .str a, .str b => a == b
  | .arr a, .arr b => beqItems a b
  | .obj a, .obj b => beqFields a b
  | _, _ => false

/-- Structural equality test on lists of values. -/
def beqItems : List Json → List Json → Bool
  | [], [] => true
  | a :: s, b :: t => beq a b && beqItems s t
  | _, _ => false

/-- Structural equality test on lists of fields. -/
def beqFields : Fields → Fields → Bool
  | [], [] => true
  | (k, a) :: s, (l, b) :: t => k == l && beq a b && beqFields s t
  | _, _ => false

end

mutual

theorem beq_iff : ∀ a b : Json, beq a b = true ↔ a = b
  | .null, b => by cases b <;> simp [beq]
  | .bool _, b => by cases b <;> simp [beq]
  | .int _, b => by cases b <;> simp [beq]
  | .float _, b => by cases b <;> simp [beq]
  | .str _, b => by cases b <;> simp [beq]
  | .arr s, b => by
    cases b with
    | arr t => simp [beq, beqItems_iff s t]
    | _ => simp [beq]
  | .obj s, b => by
    cases b with
    | obj t => simp [beq, beqFields_iff s t]
    | _ => simp [beq]

theorem beqItems_iff : ∀ s t : List Json, beqItems s t = true ↔ s = t
  | [], t => by cases t <;> simp [beqItems]
  | a :: s, t => by
    cases t with
    | nil => simp [beqItems]
    | cons b t => simp [beqItems, beq_iff a b, beqItems_iff s t]

theorem beqFields_iff : ∀ s t : Fields, beqFields s t = true ↔ s = t
  | [], t => by cases t <;> simp [beqFields]
  | (k, a) :: s, t => by
    cases t with
    | nil => simp [beqFields]
    | cons f t =>
      obtain ⟨l, b⟩ := f
      simp [beqFields, beq_iff a b, beqFields_iff s t, Prod.mk.injEq]

end

instance : DecidableEq Json := fun a b => decidable_of_iff (beq a b = true) (beq_iff a b)

/-! ## Distinct keys -/

mutual

/-- Every object in the value has distinct keys, as a dictionary has. -/
def DistinctKeys : Json → Prop
  | .arr items => DistinctKeysItems items
  | .obj fields => (fields.map Prod.fst).Nodup ∧ DistinctKeysFields fields
  | _ => True

/-- Every object in the items has distinct keys. -/
def DistinctKeysItems : List Json → Prop
  | [] => True
  | a :: t => DistinctKeys a ∧ DistinctKeysItems t

/-- Every object in the values of the fields has distinct keys. -/
def DistinctKeysFields : Fields → Prop
  | [] => True
  | (_, a) :: t => DistinctKeys a ∧ DistinctKeysFields t

end

/-! ## Typed reading -/

/-- The integer that the value is. -/
def asInt : Json → Except Exn Int
  | .int n => .ok n
  | _ => .error ⟨.typeError, "an integer is required"⟩

/-- The text that the value is. -/
def asStr : Json → Except Exn String
  | .str s => .ok s
  | _ => .error ⟨.typeError, "a string is required"⟩

/-- The object that the value is. -/
def asObj : Json → Except Exn Fields
  | .obj fields => .ok fields
  | _ => .error ⟨.typeError, "an object is required"⟩

@[simp] theorem asInt_int (n : Int) : (Json.int n).asInt = .ok n := rfl

@[simp] theorem asStr_str (s : String) : (Json.str s).asStr = .ok s := rfl

@[simp] theorem asObj_obj (fields : Fields) : (Json.obj fields).asObj = .ok fields := rfl

theorem asInt_eq_ok {j : Json} {n : Int} : j.asInt = .ok n ↔ j = .int n := by
  cases j <;> simp [asInt]

theorem asStr_eq_ok {j : Json} {s : String} : j.asStr = .ok s ↔ j = .str s := by
  cases j <;> simp [asStr]

theorem asObj_eq_ok {j : Json} {fields : Fields} : j.asObj = .ok fields ↔ j = .obj fields := by
  cases j <;> simp [asObj]

/-- `None` or a text. -/
def ofOption : Option String → Json
  | none => .null
  | some s => .str s

@[simp] theorem ofOption_none : ofOption none = .null := rfl

@[simp] theorem ofOption_some (s : String) : ofOption (some s) = .str s := rfl

theorem ofOption_injective : Function.Injective ofOption := by
  intro a b h
  cases a <;> cases b <;> simp_all [ofOption]

end Json

/-- `require_text(name, value)` on a value of a payload. -/
def requireTextValue (name : String) : Json → Except Exn String
  | .str value => requireText name value
  | _ => .error ⟨.valueError, name ++ " is required"⟩

theorem requireTextValue_eq_ok {name t : String} {j : Json} :
    requireTextValue name j = .ok t ↔ ∃ s, j = .str s ∧ t = strip s ∧ strip s ≠ "" := by
  cases j <;> simp [requireTextValue, requireText_eq_ok]

namespace Fields

/-- `payload.get(key)`, with `None` for a missing key. -/
def get (fields : Fields) (key : String) : Option Json := fields.lookup key

/-- `payload[key]`. -/
def item (fields : Fields) (key : String) : Except Exn Json :=
  match fields.get key with
  | some v => .ok v
  | none => .error ⟨.keyError, key⟩

theorem item_eq_ok {fields : Fields} {key : String} {v : Json} :
    fields.item key = .ok v ↔ fields.get key = some v := by
  unfold item
  split <;> simp_all

/-- `payload[key]`, used as an integer. -/
def intItem (fields : Fields) (key : String) : Except Exn Int := do
  (← fields.item key).asInt

/-- `payload[key]`, used as text. -/
def strItem (fields : Fields) (key : String) : Except Exn String := do
  (← fields.item key).asStr

/-- `payload[key]`, used as an object. -/
def objItem (fields : Fields) (key : String) : Except Exn Fields := do
  (← fields.item key).asObj

theorem intItem_eq_ok {fields : Fields} {key : String} {n : Int} :
    fields.intItem key = .ok n ↔ fields.get key = some (.int n) := by
  unfold intItem
  cases h : fields.item key with
  | error e =>
    simp only [bind, Except.bind, reduceCtorEq, false_iff]
    rw [← item_eq_ok, h]
    simp
  | ok v => simp [bind, Except.bind, Json.asInt_eq_ok, item_eq_ok.mp h]

theorem strItem_eq_ok {fields : Fields} {key : String} {s : String} :
    fields.strItem key = .ok s ↔ fields.get key = some (.str s) := by
  unfold strItem
  cases h : fields.item key with
  | error e =>
    simp only [bind, Except.bind, reduceCtorEq, false_iff]
    rw [← item_eq_ok, h]
    simp
  | ok v => simp [bind, Except.bind, Json.asStr_eq_ok, item_eq_ok.mp h]

theorem objItem_eq_ok {fields f : Fields} {key : String} :
    fields.objItem key = .ok f ↔ fields.get key = some (.obj f) := by
  unfold objItem
  cases h : fields.item key with
  | error e =>
    simp only [bind, Except.bind, reduceCtorEq, false_iff]
    rw [← item_eq_ok, h]
    simp
  | ok v => simp [bind, Except.bind, Json.asObj_eq_ok, item_eq_ok.mp h]

end Fields

end RailOne
