import RailOneCore.Foundation.Json

/-!
# The canonical JSON encoder

`canonical_json_bytes` refuses floating-point numbers (`_validate`), sorts the fields of every
object by key and writes the value without white space, escaping only quotes, backslashes and
control characters.

The encoder is injective up to the order of fields (`canonicalJsonBytes_inj`): the text of a value
determines where it ends, so two equal texts are read back in the same way.  The proof follows the
writer: a character of a string, a string, a value, a list of values, a list of fields.
-/

namespace RailOne

namespace CanonicalJson

/-! ## The encoder -/

mutual

/-- `_validate`: refuse floating-point numbers, naming the place. -/
def validate : Json → String → Except Exn Unit
  | .float _, path => .error ⟨.canonicalizationError,
      "floating-point value is forbidden at " ++ path ++ "; use integer minor units"⟩
  | .arr items, path => validateItems items path 0
  | .obj fields, path => validateFields fields path
  | _, _ => .ok ()

/-- The items of an array, from the given index on. -/
def validateItems : List Json → String → ℕ → Except Exn Unit
  | [], _, _ => .ok ()
  | a :: t, path, i => do
    validate a (path ++ "[" ++ i.repr ++ "]")
    validateItems t path (i + 1)

/-- The fields of an object. -/
def validateFields : Fields → String → Except Exn Unit
  | [], _ => .ok ()
  | (k, a) :: t, path => do
    validate a (path ++ "." ++ k)
    validateFields t path

end

mutual

/-- `sort_keys=True`, at every level. -/
def sortKeys : Json → Json
  | .arr items => .arr (sortKeysItems items)
  | .obj fields => .obj ((sortKeysFields fields).insertionSort fun a b => a.1 ≤ b.1)
  | j => j

/-- Sort the keys inside the items of an array. -/
def sortKeysItems : List Json → List Json
  | [] => []
  | a :: t => sortKeys a :: sortKeysItems t

/-- Sort the keys inside the values of the fields. -/
def sortKeysFields : Fields → Fields
  | [] => []
  | (k, a) :: t => (k, sortKeys a) :: sortKeysFields t

end

/-- The hexadecimal digit of a number below sixteen. -/
def hexDigit (n : ℕ) : Char := "0123456789abcdef".toList.getD n '0'

/-- One character of a string literal, with `ensure_ascii=False`. -/
def escape (c : Char) : List Char :=
  if c = '"' then ['\\', '"']
  else if c = '\\' then ['\\', '\\']
  else if c = '\n' then ['\\', 'n']
  else if c = '\r' then ['\\', 'r']
  else if c = '\t' then ['\\', 't']
  else if c = '\x0c' then ['\\', 'f']
  else if c = '\x08' then ['\\', 'b']
  else if c.toNat < 0x20 then
    ['\\', 'u', '0', '0', hexDigit (c.toNat / 16), hexDigit (c.toNat % 16)]
  else [c]

/-- A string literal. -/
def quote (s : String) : List Char := '"' :: (s.toList.flatMap escape ++ ['"'])

mutual

/-- `json.dumps` with `separators=(",", ":")`.  Floating-point numbers never get here. -/
def dumps : Json → List Char
  | .null => "null".toList
  | .bool true => "true".toList
  | .bool false => "false".toList
  | .int n => n.repr.toList
  | .float literal => literal.toList
  | .str s => quote s
  | .arr items => '[' :: dumpsItems items
  | .obj fields => '\x7b' :: dumpsFields fields

/-- The items of an array, with the closing bracket. -/
def dumpsItems : List Json → List Char
  | [] => [']']
  | a :: t => dumps a ++ dumpsMoreItems t

/-- The items of an array after the first one. -/
def dumpsMoreItems : List Json → List Char
  | [] => [']']
  | a :: t => ',' :: (dumps a ++ dumpsMoreItems t)

/-- The fields of an object, with the closing brace. -/
def dumpsFields : Fields → List Char
  | [] => ['\x7d']
  | (k, a) :: t => quote k ++ ':' :: (dumps a ++ dumpsMoreFields t)

/-- The fields of an object after the first one. -/
def dumpsMoreFields : Fields → List Char
  | [] => ['\x7d']
  | (k, a) :: t => ',' :: (quote k ++ ':' :: (dumps a ++ dumpsMoreFields t))

end

end CanonicalJson

/-- `text.encode("utf-8")`. -/
def utf8Bytes (text : List Char) : ByteArray := ⟨⟨text.flatMap String.utf8EncodeChar⟩⟩

/-- `canonical_json_bytes`. -/
def canonicalJsonBytes (value : Json) : Except Exn ByteArray := do
  CanonicalJson.validate value "$"
  return utf8Bytes (CanonicalJson.dumps (CanonicalJson.sortKeys value))

namespace CanonicalJson

/-! ## What the encoder accepts -/

mutual

/-- The value holds no floating-point number. -/
def Accepted : Json → Prop
  | .float _ => False
  | .arr items => AcceptedItems items
  | .obj fields => AcceptedFields fields
  | _ => True

/-- No item holds a floating-point number. -/
def AcceptedItems : List Json → Prop
  | [] => True
  | a :: t => Accepted a ∧ AcceptedItems t

/-- No field holds a floating-point number. -/
def AcceptedFields : Fields → Prop
  | [] => True
  | (_, a) :: t => Accepted a ∧ AcceptedFields t

end

mutual

theorem validate_eq_ok : ∀ (j : Json) (path : String), validate j path = .ok () ↔ Accepted j
  | .null, _ | .bool _, _ | .int _, _ | .str _, _ => by simp [validate, Accepted]
  | .float _, _ => by simp [validate, Accepted]
  | .arr items, path => by simp [validate, Accepted, validateItems_eq_ok items path 0]
  | .obj fields, path => by simp [validate, Accepted, validateFields_eq_ok fields path]

theorem validateItems_eq_ok : ∀ (l : List Json) (path : String) (i : ℕ),
    validateItems l path i = .ok () ↔ AcceptedItems l
  | [], _, _ => by simp [validateItems, AcceptedItems]
  | a :: t, path, i => by
    rw [AcceptedItems, ← validate_eq_ok a (path ++ "[" ++ i.repr ++ "]"),
      ← validateItems_eq_ok t path (i + 1), validateItems]
    cases validate a (path ++ "[" ++ i.repr ++ "]") <;> simp [bind, Except.bind]

theorem validateFields_eq_ok : ∀ (l : Fields) (path : String),
    validateFields l path = .ok () ↔ AcceptedFields l
  | [], _ => by simp [validateFields, AcceptedFields]
  | (k, a) :: t, path => by
    rw [AcceptedFields, ← validate_eq_ok a (path ++ "." ++ k), ← validateFields_eq_ok t path,
      validateFields]
    cases validate a (path ++ "." ++ k) <;> simp [bind, Except.bind]

end

theorem acceptedFields_iff {l : Fields} : AcceptedFields l ↔ ∀ f ∈ l, Accepted f.2 := by
  induction l with
  | nil => simp [AcceptedFields]
  | cons f t ih =>
    obtain ⟨k, a⟩ := f
    simp [AcceptedFields, ih]

mutual

theorem accepted_sortKeys : ∀ j : Json, Accepted j → Accepted (sortKeys j)
  | .null, h | .bool _, h | .int _, h | .str _, h => by simpa [sortKeys] using h
  | .float _, h => h.elim
  | .arr items, h => by
    simp only [sortKeys, Accepted] at h ⊢
    exact acceptedItems_sortKeys items h
  | .obj fields, h => by
    simp only [sortKeys, Accepted] at h ⊢
    rw [acceptedFields_iff]
    intro f hf
    rw [List.mem_insertionSort] at hf
    exact acceptedFields_iff.mp (acceptedFields_sortKeys fields h) f hf

theorem acceptedItems_sortKeys : ∀ l : List Json, AcceptedItems l → AcceptedItems (sortKeysItems l)
  | [], _ => trivial
  | a :: t, h => ⟨accepted_sortKeys a h.1, acceptedItems_sortKeys t h.2⟩

theorem acceptedFields_sortKeys : ∀ l : Fields, AcceptedFields l → AcceptedFields (sortKeysFields l)
  | [], _ => trivial
  | (_, a) :: t, h => ⟨accepted_sortKeys a h.1, acceptedFields_sortKeys t h.2⟩

end

/-! ## Reading back characters, integers and strings -/

/-- The value of a hexadecimal digit. -/
def hexValue (c : Char) : ℕ := "0123456789abcdef".toList.idxOf c

/-- Read one escaped character back. -/
def unescape : List Char → Option (Char × List Char)
  | '\\' :: 'u' :: '0' :: '0' :: a :: b :: t =>
    some (Char.ofNat (16 * hexValue a + hexValue b), t)
  | '\\' :: 'n' :: t => some ('\n', t)
  | '\\' :: 'r' :: t => some ('\r', t)
  | '\\' :: 't' :: t => some ('\t', t)
  | '\\' :: 'f' :: t => some ('\x0c', t)
  | '\\' :: 'b' :: t => some ('\x08', t)
  | '\\' :: c :: t => some (c, t)
  | c :: t => some (c, t)
  | [] => none

/-- Below sixteen the digit of a number has that number as its value. -/
private theorem hexValue_hexDigit {n : ℕ} (h : n < 16) : hexValue (hexDigit n) = n := by
  interval_cases n <;> decide

/-- An escaped character is read back, whatever follows it. -/
theorem unescape_escape (c : Char) (t : List Char) : unescape (escape c ++ t) = some (c, t) := by
  unfold escape
  split_ifs with h₁ h₂ h₃ h₄ h₅ h₆ h₇ h₈
  · simp [unescape, h₁]
  · simp [unescape, h₂]
  · simp [unescape, h₃]
  · simp [unescape, h₄]
  · simp [unescape, h₅]
  · simp [unescape, h₆]
  · simp [unescape, h₇]
  · simp only [List.cons_append, List.nil_append, unescape]
    rw [hexValue_hexDigit (by omega), hexValue_hexDigit (by omega), Nat.div_add_mod,
      Char.ofNat_toNat]
  · unfold unescape
    simp [h₂]

/-- No escaped character starts with a quote. -/
theorem escape_head_ne (c : Char) : ∃ d l, escape c = d :: l ∧ d ≠ '"' := by
  unfold escape
  split_ifs with h₁ <;> simp_all

/-- The end of a string literal is found by its unescaped quote. -/
theorem flatMap_escape_inj {s t : List Char} {x y : List Char}
    (h : s.flatMap escape ++ '"' :: x = t.flatMap escape ++ '"' :: y) : s = t ∧ x = y := by
  induction s generalizing t with
  | nil =>
    cases t with
    | nil => simpa using h
    | cons c t =>
      obtain ⟨d, l, hd, hne⟩ := escape_head_ne c
      simp only [List.flatMap_nil, List.nil_append, List.flatMap_cons, hd, List.cons_append,
        List.cons.injEq] at h
      exact absurd h.1.symm hne
  | cons c s ih =>
    cases t with
    | nil =>
      obtain ⟨d, l, hd, hne⟩ := escape_head_ne c
      simp only [List.flatMap_nil, List.nil_append, List.flatMap_cons, hd, List.cons_append,
        List.cons.injEq] at h
      exact absurd h.1 hne
    | cons c' t =>
      simp only [List.flatMap_cons, List.append_assoc] at h
      have hread := congrArg unescape h
      rw [unescape_escape, unescape_escape, Option.some.injEq, Prod.mk.injEq] at hread
      obtain ⟨rfl, hrest⟩ := hread
      obtain ⟨rfl, rfl⟩ := ih hrest
      exact ⟨rfl, rfl⟩

/-- A string literal determines its text and its end. -/
theorem quote_inj {s t : String} {x y : List Char} (h : quote s ++ x = quote t ++ y) :
    s = t ∧ x = y := by
  simp only [quote, List.cons_append, List.append_assoc, List.cons.injEq, true_and,
    List.nil_append] at h
  obtain ⟨hl, hx⟩ := flatMap_escape_inj h
  exact ⟨String.toList_inj.mp hl, hx⟩

/-- Read a decimal integer back. -/
def readInt : List Char → Int
  | '-' :: t => -(Nat.ofDigitChars 10 t 0 : Int)
  | l => Nat.ofDigitChars 10 l 0

/-- The characters of an integer literal. -/
def isNumeral (c : Char) : Bool := c.isDigit || c == '-'

private theorem isDigit_of_mem_repr {n : ℕ} {c : Char} (h : c ∈ n.repr.toList) :
    c.isDigit = true := by
  rw [Nat.toList_repr] at h
  exact Nat.isDigit_of_mem_toDigits (by decide) le_rfl h

/-- Every character of an integer literal is a digit or the sign. -/
theorem isNumeral_of_mem_repr {n : Int} {c : Char} (h : c ∈ n.repr.toList) :
    isNumeral c = true := by
  rw [Int.repr_eq_if] at h
  split at h
  · simp [isNumeral, isDigit_of_mem_repr h]
  · rw [String.toList_append, List.mem_append] at h
    rcases h with h | h
    · have hc : c = '-' := by simpa using h
      simp [isNumeral, hc]
    · simp [isNumeral, isDigit_of_mem_repr h]

/-- An integer literal has a first character. -/
theorem repr_ne_nil (n : Int) : n.repr.toList ≠ [] := by
  rw [Int.repr_eq_if]
  split
  · rw [Nat.toList_repr]
    exact Nat.toDigits_ne_nil
  · simp

theorem readInt_repr (n : Int) : readInt n.repr.toList = n := by
  rw [Int.repr_eq_if]
  split
  · next h =>
    have hread : Nat.ofDigitChars 10 n.toNat.repr.toList 0 = n.toNat := by
      rw [Nat.toList_repr]
      exact Nat.ofDigitChars_toDigits (by decide) le_rfl
    cases hl : n.toNat.repr.toList with
    | nil =>
      rw [hl] at hread
      simp only [readInt, hread]
      omega
    | cons c t =>
      have hc : c.isDigit = true := isDigit_of_mem_repr (hl ▸ List.mem_cons_self)
      have hne : c ≠ '-' := by
        rintro rfl
        exact absurd hc (by decide)
      rw [hl] at hread
      unfold readInt
      split
      · next heq =>
        rw [List.cons.injEq] at heq
        exact absurd heq.1 hne
      · rw [hread]
        omega
  · rw [String.toList_append, Nat.toList_repr]
    change -((Nat.ofDigitChars 10 (Nat.toDigits 10 (-n).toNat) 0 : ℕ) : Int) = n
    rw [Nat.ofDigitChars_toDigits (by decide) le_rfl]
    omega

/-- The text goes on with a separator or a closing bracket, or ends. -/
def Delimited (x : List Char) : Prop := ∀ c ∈ x.head?, isNumeral c = false

/-- A delimited integer literal determines its value and its end. -/
theorem repr_inj {n m : Int} {x y : List Char} (hx : Delimited x) (hy : Delimited y)
    (h : n.repr.toList ++ x = m.repr.toList ++ y) : n = m ∧ x = y := by
  have htake : ∀ (k : Int) (z : List Char), Delimited z →
      (k.repr.toList ++ z).takeWhile isNumeral = k.repr.toList := by
    intro k z hz
    rw [List.takeWhile_append_of_pos fun c hc => isNumeral_of_mem_repr hc]
    cases z with
    | nil => simp
    | cons c t => rw [List.takeWhile_cons_of_neg (by simp [hz c (by simp)]), List.append_nil]
  have heq : n.repr.toList = m.repr.toList := by
    rw [← htake n x hx, h, htake m y hy]
  refine ⟨?_, ?_⟩
  · rw [← readInt_repr n, heq, readInt_repr]
  · rw [heq] at h
    exact List.append_cancel_left h

/-! ## Reading back values -/

/-- The kind of a value, as far as the first character of its text shows it. -/
def kind : Json → ℕ
  | .null => 0
  | .bool true => 1
  | .bool false => 2
  | .int _ => 3
  | .str _ => 4
  | .arr _ => 5
  | .obj _ => 6
  | .float _ => 7

/-- The kind of value that a text with this first character writes. -/
def kindOfHead (c : Char) : ℕ :=
  if c = 'n' then 0 else if c = 't' then 1 else if c = 'f' then 2 else if c = '"' then 4
  else if c = '[' then 5 else if c = '\x7b' then 6 else 3

private theorem kindOfHead_numeral {c : Char} (h : isNumeral c = true) : kindOfHead c = 3 := by
  unfold kindOfHead
  split_ifs with h₁ h₂ h₃ h₄ h₅ h₆
  all_goals first
    | rfl
    | (subst_vars; exact absurd h (by decide))

/-- The first character of a text shows the kind of value. -/
theorem kind_of_dumps {a : Json} (ha : Accepted a) :
    ∃ c t, dumps a = c :: t ∧ kindOfHead c = kind a := by
  cases a with
  | null => exact ⟨_, _, rfl, rfl⟩
  | bool b => cases b <;> exact ⟨_, _, rfl, rfl⟩
  | int n =>
    obtain ⟨c, t, hc⟩ := List.exists_cons_of_ne_nil (repr_ne_nil n)
    exact ⟨c, t, hc, kindOfHead_numeral (isNumeral_of_mem_repr (hc ▸ List.mem_cons_self))⟩
  | float literal => exact ha.elim
  | str s => exact ⟨_, _, rfl, rfl⟩
  | arr items => exact ⟨_, _, rfl, rfl⟩
  | obj fields => exact ⟨_, _, rfl, rfl⟩

/-- Texts that agree write values of the same kind. -/
theorem kind_eq_of_dumps {a b : Json} (ha : Accepted a) (hb : Accepted b) {x y : List Char}
    (h : dumps a ++ x = dumps b ++ y) : kind a = kind b := by
  obtain ⟨c, t, hc, hk⟩ := kind_of_dumps ha
  obtain ⟨d, u, hd, hl⟩ := kind_of_dumps hb
  rw [hc, hd, List.cons_append, List.cons_append, List.cons.injEq] at h
  rw [← hk, ← hl, h.1]

private theorem head_ne_close {a : Json} (ha : Accepted a) {x y : List Char} {d : Char}
    (hd : d = ']' ∨ d = '\x7d') : dumps a ++ x ≠ d :: y := by
  obtain ⟨c, t, hc, hk⟩ := kind_of_dumps ha
  intro h
  rw [hc, List.cons_append, List.cons.injEq] at h
  obtain ⟨rfl, -⟩ := h
  have h3 : kind a = 3 := by
    rw [← hk]
    rcases hd with rfl | rfl <;> rfl
  cases a with
  | int n =>
    have hnum := isNumeral_of_mem_repr (n := n) (c := c)
      (by change c ∈ dumps (.int n); rw [hc]; exact List.mem_cons_self)
    rcases hd with rfl | rfl <;> exact absurd hnum (by decide)
  | bool b => cases b <;> cases h3
  | _ => cases h3

private theorem delimited_moreItems (l : List Json) (x : List Char) :
    Delimited (dumpsMoreItems l ++ x) := by
  cases l <;> intro c hc <;> simp only [dumpsMoreItems, List.cons_append, List.head?_cons,
    Option.mem_def, Option.some.injEq] at hc <;> subst hc <;> decide

private theorem delimited_moreFields (l : Fields) (x : List Char) :
    Delimited (dumpsMoreFields l ++ x) := by
  cases l <;> intro c hc <;> simp only [dumpsMoreFields, List.cons_append, List.head?_cons,
    Option.mem_def, Option.some.injEq] at hc <;> subst hc <;> decide

mutual

/-- A delimited text determines its value and its end. -/
theorem dumps_inj : ∀ (a b : Json) (x y : List Char), Accepted a → Accepted b →
    Delimited x → Delimited y → dumps a ++ x = dumps b ++ y → a = b ∧ x = y
  | .null, b, x, y, ha, hb, _, _, h => by
    have hk := kind_eq_of_dumps ha hb h
    cases b with
    | null => exact ⟨rfl, List.append_cancel_left h⟩
    | bool b => cases b <;> cases hk
    | _ => cases hk
  | .bool true, b, x, y, ha, hb, _, _, h => by
    have hk := kind_eq_of_dumps ha hb h
    cases b with
    | bool b =>
      cases b with
      | true => exact ⟨rfl, List.append_cancel_left h⟩
      | false => cases hk
    | _ => cases hk
  | .bool false, b, x, y, ha, hb, _, _, h => by
    have hk := kind_eq_of_dumps ha hb h
    cases b with
    | bool b =>
      cases b with
      | true => cases hk
      | false => exact ⟨rfl, List.append_cancel_left h⟩
    | _ => cases hk
  | .int n, b, x, y, ha, hb, hx, hy, h => by
    have hk := kind_eq_of_dumps ha hb h
    cases b with
    | int m =>
      obtain ⟨rfl, hxy⟩ := repr_inj hx hy h
      exact ⟨rfl, hxy⟩
    | bool b => cases b <;> cases hk
    | _ => cases hk
  | .float _, _, _, _, ha, _, _, _, _ => ha.elim
  | .str s, b, x, y, ha, hb, _, _, h => by
    have hk := kind_eq_of_dumps ha hb h
    cases b with
    | str t =>
      obtain ⟨rfl, hxy⟩ := quote_inj h
      exact ⟨rfl, hxy⟩
    | bool b => cases b <;> cases hk
    | _ => cases hk
  | .arr s, b, x, y, ha, hb, _, _, h => by
    have hk := kind_eq_of_dumps ha hb h
    cases b with
    | arr t =>
      simp only [dumps, List.cons_append, List.cons.injEq, true_and] at h
      obtain ⟨rfl, hxy⟩ := dumpsItems_inj s t x y ha hb h
      exact ⟨rfl, hxy⟩
    | bool b => cases b <;> cases hk
    | _ => cases hk
  | .obj s, b, x, y, ha, hb, _, _, h => by
    have hk := kind_eq_of_dumps ha hb h
    cases b with
    | obj t =>
      simp only [dumps, List.cons_append, List.cons.injEq, true_and] at h
      obtain ⟨rfl, hxy⟩ := dumpsFields_inj s t x y ha hb h
      exact ⟨rfl, hxy⟩
    | bool b => cases b <;> cases hk
    | _ => cases hk

/-- The text of an array determines its items and its end. -/
theorem dumpsItems_inj : ∀ (s t : List Json) (x y : List Char), AcceptedItems s → AcceptedItems t →
    dumpsItems s ++ x = dumpsItems t ++ y → s = t ∧ x = y
  | [], [], x, y, _, _, h => ⟨rfl, by simpa [dumpsItems] using h⟩
  | [], b :: t, x, y, _, ht, h => by
    simp only [dumpsItems, List.append_assoc, List.cons_append, List.nil_append] at h
    exact absurd h.symm (head_ne_close ht.1 (.inl rfl))
  | a :: s, [], x, y, hs, _, h => by
    simp only [dumpsItems, List.append_assoc, List.cons_append, List.nil_append] at h
    exact absurd h (head_ne_close hs.1 (.inl rfl))
  | a :: s, b :: t, x, y, hs, ht, h => by
    simp only [dumpsItems, List.append_assoc] at h
    obtain ⟨rfl, hrest⟩ := dumps_inj a b _ _ hs.1 ht.1 (delimited_moreItems s x)
      (delimited_moreItems t y) h
    obtain ⟨rfl, hxy⟩ := dumpsMoreItems_inj s t x y hs.2 ht.2 hrest
    exact ⟨rfl, hxy⟩

/-- The same for the items after the first one. -/
theorem dumpsMoreItems_inj : ∀ (s t : List Json) (x y : List Char),
    AcceptedItems s → AcceptedItems t →
    dumpsMoreItems s ++ x = dumpsMoreItems t ++ y → s = t ∧ x = y
  | [], [], x, y, _, _, h => ⟨rfl, by simpa [dumpsMoreItems] using h⟩
  | [], b :: t, x, y, _, _, h => by simp [dumpsMoreItems] at h
  | a :: s, [], x, y, _, _, h => by simp [dumpsMoreItems] at h
  | a :: s, b :: t, x, y, hs, ht, h => by
    simp only [dumpsMoreItems, List.cons_append, List.append_assoc, List.cons.injEq,
      true_and] at h
    obtain ⟨rfl, hrest⟩ := dumps_inj a b _ _ hs.1 ht.1 (delimited_moreItems s x)
      (delimited_moreItems t y) h
    obtain ⟨rfl, hxy⟩ := dumpsMoreItems_inj s t x y hs.2 ht.2 hrest
    exact ⟨rfl, hxy⟩

/-- The text of an object determines its fields and its end. -/
theorem dumpsFields_inj : ∀ (s t : Fields) (x y : List Char), AcceptedFields s → AcceptedFields t →
    dumpsFields s ++ x = dumpsFields t ++ y → s = t ∧ x = y
  | [], [], x, y, _, _, h => ⟨rfl, by simpa [dumpsFields] using h⟩
  | [], (l, b) :: t, x, y, _, _, h => by simp [dumpsFields, quote] at h
  | (k, a) :: s, [], x, y, _, _, h => by simp [dumpsFields, quote] at h
  | (k, a) :: s, (l, b) :: t, x, y, hs, ht, h => by
    simp only [dumpsFields, List.append_assoc, List.cons_append] at h
    obtain ⟨rfl, hvalue⟩ := quote_inj h
    rw [List.cons.injEq] at hvalue
    obtain ⟨rfl, hrest⟩ := dumps_inj a b _ _ hs.1 ht.1 (delimited_moreFields s x)
      (delimited_moreFields t y) hvalue.2
    obtain ⟨rfl, hxy⟩ := dumpsMoreFields_inj s t x y hs.2 ht.2 hrest
    exact ⟨rfl, hxy⟩

/-- The same for the fields after the first one. -/
theorem dumpsMoreFields_inj : ∀ (s t : Fields) (x y : List Char),
    AcceptedFields s → AcceptedFields t →
    dumpsMoreFields s ++ x = dumpsMoreFields t ++ y → s = t ∧ x = y
  | [], [], x, y, _, _, h => ⟨rfl, by simpa [dumpsMoreFields] using h⟩
  | [], (l, b) :: t, x, y, _, _, h => by simp [dumpsMoreFields] at h
  | (k, a) :: s, [], x, y, _, _, h => by simp [dumpsMoreFields] at h
  | (k, a) :: s, (l, b) :: t, x, y, hs, ht, h => by
    simp only [dumpsMoreFields, List.cons_append, List.append_assoc, List.cons.injEq,
      true_and] at h
    obtain ⟨rfl, hvalue⟩ := quote_inj h
    rw [List.cons.injEq] at hvalue
    obtain ⟨rfl, hrest⟩ := dumps_inj a b _ _ hs.1 ht.1 (delimited_moreFields s x)
      (delimited_moreFields t y) hvalue.2
    obtain ⟨rfl, hxy⟩ := dumpsMoreFields_inj s t x y hs.2 ht.2 hrest
    exact ⟨rfl, hxy⟩

end

end CanonicalJson

/-! ## Injectivity of the encoder -/

open CanonicalJson

theorem utf8Bytes_injective : Function.Injective utf8Bytes := by
  intro s t h
  have hbytes : s.flatMap String.utf8EncodeChar = t.flatMap String.utf8EncodeChar :=
    congrArg (fun b => b.data.toList) h
  exact String.ofList_injective (String.toByteArray_inj.mp (congrArg List.toByteArray hbytes))

/-- The encoder writes exactly the values without floating-point numbers. -/
theorem canonicalJsonBytes_eq_ok {a : Json} {bytes : ByteArray} :
    canonicalJsonBytes a = .ok bytes ↔
      Accepted a ∧ bytes = utf8Bytes (dumps (sortKeys a)) := by
  unfold canonicalJsonBytes
  rw [← validate_eq_ok a "$"]
  cases h : validate a "$" with
  | error e => simp [bind, Except.bind]
  | ok u => simp [bind, Except.bind, pure, Except.pure, eq_comm]

theorem canonicalJsonBytes_of_accepted {j : Json} (h : Accepted j) :
    ∃ bytes, canonicalJsonBytes j = .ok bytes :=
  ⟨_, canonicalJsonBytes_eq_ok.mpr ⟨h, rfl⟩⟩

/-- Equal bytes come from values that differ at most in the order of fields. -/
theorem canonicalJsonBytes_inj {a b : Json} {bytes : ByteArray}
    (ha : canonicalJsonBytes a = .ok bytes) (hb : canonicalJsonBytes b = .ok bytes) :
    sortKeys a = sortKeys b := by
  obtain ⟨haccept, rfl⟩ := canonicalJsonBytes_eq_ok.mp ha
  obtain ⟨hbccept, heq⟩ := canonicalJsonBytes_eq_ok.mp hb
  have hlist : dumps (sortKeys a) = dumps (sortKeys b) := utf8Bytes_injective heq
  have hdelim : Delimited [] := by simp [Delimited]
  exact (dumps_inj _ _ [] [] (accepted_sortKeys a haccept) (accepted_sortKeys b hbccept)
    hdelim hdelim (by rw [List.append_nil, List.append_nil, hlist])).1

/-! ## Fields of equal objects -/

private theorem lookup_perm {l l' : Fields} (h : l.Perm l') (hnd : (l.map Prod.fst).Nodup)
    (k : String) : l.lookup k = l'.lookup k := by
  induction h with
  | nil => rfl
  | cons f _ ih =>
    rw [List.map_cons, List.nodup_cons] at hnd
    rw [List.lookup_cons, List.lookup_cons, ih hnd.2]
  | swap f g l =>
    obtain ⟨a, v⟩ := f
    obtain ⟨b, w⟩ := g
    have hne : b ≠ a := by
      rintro rfl
      simp at hnd
    by_cases ha : k = a
    · subst ha
      simp [List.lookup_cons, beq_eq_false_iff_ne.mpr (Ne.symm hne)]
    · simp [List.lookup_cons, beq_eq_false_iff_ne.mpr ha]
  | trans h₁ _ ih₁ ih₂ => exact (ih₁ hnd).trans (ih₂ ((h₁.map Prod.fst).nodup_iff.mp hnd))

theorem keys_sortKeysFields (l : Fields) :
    (sortKeysFields l).map Prod.fst = l.map Prod.fst := by
  induction l with
  | nil => rfl
  | cons f t ih =>
    obtain ⟨k, a⟩ := f
    simp [sortKeysFields, ih]

theorem lookup_sortKeysFields (l : Fields) (k : String) :
    (sortKeysFields l).lookup k = (l.lookup k).map sortKeys := by
  induction l with
  | nil => rfl
  | cons f t ih =>
    obtain ⟨a, v⟩ := f
    rw [sortKeysFields, List.lookup_cons, List.lookup_cons, ih]
    cases k == a <;> rfl

/-- The fields that an object with distinct keys shows in its sorted form. -/
theorem lookup_sortKeys {f s : Fields} (hf : (f.map Prod.fst).Nodup)
    (h : sortKeys (.obj f) = .obj s) (k : String) : s.lookup k = (f.lookup k).map sortKeys := by
  rw [sortKeys, Json.obj.injEq] at h
  rw [← h, ← lookup_sortKeysFields]
  refine lookup_perm (List.perm_insertionSort _ _) ?_ k
  rw [((List.perm_insertionSort _ _).map Prod.fst).nodup_iff, keys_sortKeysFields]
  exact hf

/-- Objects with distinct keys and equal bytes have the same fields. -/
theorem get_of_canonicalJsonBytes_eq {f g : Fields} (hf : (f.map Prod.fst).Nodup)
    (hg : (g.map Prod.fst).Nodup) {bytes : ByteArray}
    (ha : canonicalJsonBytes (.obj f) = .ok bytes) (hb : canonicalJsonBytes (.obj g) = .ok bytes)
    (k : String) : (f.get k).map sortKeys = (g.get k).map sortKeys := by
  have heq := canonicalJsonBytes_inj ha hb
  have hobj : ∃ s, sortKeys (.obj g) = .obj s := ⟨_, rfl⟩
  obtain ⟨s, hs⟩ := hobj
  unfold Fields.get
  rw [← lookup_sortKeys hf (heq.trans hs) k, ← lookup_sortKeys hg hs k]

/-! ## Comparing values -/

mutual

/-- The value that `==` compares: booleans are integers, and the order of keys does not matter. -/
def Json.comparable : Json → Json
  | .bool b => .int (if b then 1 else 0)
  | .arr items => .arr (comparableItems items)
  | .obj fields => CanonicalJson.sortKeys (.obj (comparableFields fields))
  | j => j

/-- The comparable items. -/
def Json.comparableItems : List Json → List Json
  | [] => []
  | a :: t => a.comparable :: comparableItems t

/-- The fields with comparable values. -/
def Json.comparableFields : Fields → Fields
  | [] => []
  | (k, a) :: t => (k, a.comparable) :: comparableFields t

end

/-- `int(value)` of a number. -/
def Json.toInt : Json → Except Exn Int
  | .int n => .ok n
  | .bool b => .ok (if b then 1 else 0)
  | _ => .error ⟨.typeError, "int() argument must be a number"⟩

end RailOne
