import RailOneCore.Foundation.CanonicalJson
import RailOneCore.Library.Dict

/-!
# Decoding JSON text

`jsonDecode` is `json.loads` on UTF-8 text: white space between tokens, the escapes of string
literals with surrogate pairs, integers and floating-point literals, and the last value for a key
that is given twice.  A lone surrogate is refused here, since it is no character.

The decoder reads the canonical text of a value back to the value with its keys sorted
(`jsonDecode_canonicalJsonBytes`).
-/

namespace RailOne

namespace JsonDecoder

/-! ## The decoder -/

/-- The white space of JSON. -/
def isBlank (c : Char) : Bool := c == ' ' || c == '\t' || c == '\n' || c == '\r'

/-- Skip white space. -/
def skipBlanks (text : List Char) : List Char := text.dropWhile isBlank

/-- The value of a hexadecimal digit. -/
def hexValue (c : Char) : Option ℕ :=
  if '0' ≤ c ∧ c ≤ '9' then some (c.toNat - '0'.toNat)
  else if 'a' ≤ c ∧ c ≤ 'f' then some (c.toNat - 'a'.toNat + 10)
  else if 'A' ≤ c ∧ c ≤ 'F' then some (c.toNat - 'A'.toNat + 10)
  else none

/-- Four hexadecimal digits. -/
def readCode : List Char → Option (ℕ × List Char)
  | a :: b :: c :: d :: t => do
    return (4096 * (← hexValue a) + 256 * (← hexValue b) + 16 * (← hexValue c) + (← hexValue d), t)
  | _ => none

/-- The character of a `\u` escape, which may be a surrogate pair. -/
def readUnicode (text : List Char) : Option (Char × List Char) := do
  let (high, rest) ← readCode text
  if 0xd800 ≤ high ∧ high < 0xdc00 then
    match rest with
    | '\\' :: 'u' :: t =>
      let (low, rest) ← readCode t
      if 0xdc00 ≤ low ∧ low < 0xe000 then
        return (Char.ofNat (0x10000 + 0x400 * (high - 0xd800) + (low - 0xdc00)), rest)
      else none
    | _ => none
  else if 0xdc00 ≤ high ∧ high < 0xe000 then none
  else return (Char.ofNat high, rest)

/-- One character of a string literal.  Control characters must be escaped. -/
def readChar : List Char → Option (Char × List Char)
  | '\\' :: 'u' :: t => readUnicode t
  | '\\' :: '"' :: t => some ('"', t)
  | '\\' :: '\\' :: t => some ('\\', t)
  | '\\' :: '/' :: t => some ('/', t)
  | '\\' :: 'n' :: t => some ('\n', t)
  | '\\' :: 'r' :: t => some ('\r', t)
  | '\\' :: 't' :: t => some ('\t', t)
  | '\\' :: 'f' :: t => some ('\x0c', t)
  | '\\' :: 'b' :: t => some ('\x08', t)
  | '\\' :: _ => none
  | c :: t => if c.toNat < 0x20 then none else some (c, t)
  | [] => none

/-- The rest of a string literal, after the opening quote. -/
def readString : ℕ → List Char → Option (List Char × List Char)
  | 0, _ => none
  | fuel + 1, text =>
    match text with
    | '"' :: t => some ([], t)
    | _ => do
      let (c, t) ← readChar text
      let (s, rest) ← readString fuel t
      return (c :: s, rest)

/-- The digits before the point: zero, or digits that do not start with zero. -/
def readDigits : List Char → List Char × List Char
  | '0' :: t => (['0'], t)
  | text => text.span Char.isDigit

/-- `.` and digits, if they are there. -/
def readFraction : List Char → List Char × List Char
  | '.' :: t =>
    match t.span Char.isDigit with
    | ([], _) => ([], '.' :: t)
    | (digits, rest) => ('.' :: digits, rest)
  | text => ([], text)

/-- The exponent, if it is there. -/
def readExponent : List Char → List Char × List Char
  | c :: t =>
    if c = 'e' ∨ c = 'E' then
      let (sign, t') := match t with
        | '+' :: t' => (['+'], t')
        | '-' :: t' => (['-'], t')
        | _ => ([], t)
      match t'.span Char.isDigit with
      | ([], _) => ([], c :: t)
      | (digits, rest) => (c :: (sign ++ digits), rest)
    else ([], c :: t)
  | [] => ([], [])

/-- A number: an integer, unless it has a fraction or an exponent. -/
def readNumber (text : List Char) : Option (Json × List Char) :=
  let (sign, t) := match text with
    | '-' :: t => (['-'], t)
    | _ => ([], text)
  match readDigits t with
  | ([], _) => none
  | (digits, rest) =>
    let (fraction, rest) := readFraction rest
    let (exponent, rest) := readExponent rest
    if fraction = [] ∧ exponent = [] then
      some (.int (CanonicalJson.readInt (sign ++ digits)), rest)
    else some (.float (String.ofList (sign ++ digits ++ fraction ++ exponent)), rest)

/-- The object with these fields: of fields with the same key, the last one counts. -/
def objectOf (fields : Fields) : Json :=
  .obj (fields.foldl (fun d f => d.set f.1 f.2) Ordered.Dict.empty).entries

mutual

/-- One value. -/
def readValue : ℕ → List Char → Option (Json × List Char)
  | 0, _ => none
  | fuel + 1, text =>
    match text with
    | 'n' :: 'u' :: 'l' :: 'l' :: t => some (.null, t)
    | 't' :: 'r' :: 'u' :: 'e' :: t => some (.bool true, t)
    | 'f' :: 'a' :: 'l' :: 's' :: 'e' :: t => some (.bool false, t)
    | 'N' :: 'a' :: 'N' :: t => some (.float "NaN", t)
    | 'I' :: 'n' :: 'f' :: 'i' :: 'n' :: 'i' :: 't' :: 'y' :: t => some (.float "Infinity", t)
    | '-' :: 'I' :: 'n' :: 'f' :: 'i' :: 'n' :: 'i' :: 't' :: 'y' :: t =>
      some (.float "-Infinity", t)
    | '"' :: t => do
      let (s, rest) ← readString fuel t
      return (.str (String.ofList s), rest)
    | '[' :: t =>
      match skipBlanks t with
      | ']' :: rest => some (.arr [], rest)
      | t => do
        let (items, rest) ← readItems fuel t
        return (.arr items, rest)
    | '\x7b' :: t =>
      match skipBlanks t with
      | '\x7d' :: rest => some (.obj [], rest)
      | t => do
        let (fields, rest) ← readFields fuel t
        return (objectOf fields, rest)
    | _ => readNumber text

/-- The items of an array that is not empty, with the closing bracket. -/
def readItems : ℕ → List Char → Option (List Json × List Char)
  | 0, _ => none
  | fuel + 1, text => do
    let (item, rest) ← readValue fuel text
    match skipBlanks rest with
    | ']' :: rest => return ([item], rest)
    | ',' :: t =>
      let (items, rest) ← readItems fuel (skipBlanks t)
      return (item :: items, rest)
    | _ => none

/-- The fields of an object that is not empty, with the closing brace. -/
def readFields : ℕ → List Char → Option (Fields × List Char)
  | 0, _ => none
  | fuel + 1, text =>
    match text with
    | '"' :: t => do
      let (key, rest) ← readString fuel t
      match skipBlanks rest with
      | ':' :: t =>
        let (value, rest) ← readValue fuel (skipBlanks t)
        match skipBlanks rest with
        | '\x7d' :: rest => return ([(String.ofList key, value)], rest)
        | ',' :: t =>
          let (fields, rest) ← readFields fuel (skipBlanks t)
          return ((String.ofList key, value) :: fields, rest)
        | _ => none
      | _ => none
    | _ => none

end

/-- The value of a JSON text. -/
def decodeText (text : List Char) : Option Json := do
  let (value, rest) ← readValue (text.length + 1) (skipBlanks text)
  if skipBlanks rest = [] then some value else none

end JsonDecoder

/-- `json.loads(data.decode("utf-8"))`. -/
def jsonDecode (data : ByteArray) : Option Json := do
  JsonDecoder.decodeText (← data.utf8Decode?).toList

namespace JsonDecoder

open CanonicalJson (escape hexDigit quote dumps dumpsItems dumpsMoreItems dumpsFields
  dumpsMoreFields sortKeys Accepted AcceptedItems AcceptedFields)

/-! ## Reading back characters and strings -/

private theorem hexValue_hexDigit {n : ℕ} (h : n < 16) : hexValue (hexDigit n) = some n := by
  interval_cases n <;> decide

/-- An escaped character is read back, whatever follows it. -/
theorem readChar_escape (c : Char) (t : List Char) : readChar (escape c ++ t) = some (c, t) := by
  unfold escape
  split_ifs with h₁ h₂ h₃ h₄ h₅ h₆ h₇ h₈
  · simp [readChar, h₁]
  · simp [readChar, h₂]
  · simp [readChar, h₃]
  · simp [readChar, h₄]
  · simp [readChar, h₅]
  · simp [readChar, h₆]
  · simp [readChar, h₇]
  · have hzero : hexValue '0' = some 0 := by decide
    have hhigh : hexValue (hexDigit (c.toNat / 16)) = some (c.toNat / 16) :=
      hexValue_hexDigit (by omega)
    have hlow : hexValue (hexDigit (c.toNat % 16)) = some (c.toNat % 16) :=
      hexValue_hexDigit (by omega)
    have hcode : readCode ('0' :: '0' :: hexDigit (c.toNat / 16) :: hexDigit (c.toNat % 16) :: t) =
        some (c.toNat, t) := by
      simp only [readCode, hzero, hhigh, hlow]
      change some (4096 * 0 + 256 * 0 + 16 * (c.toNat / 16) + c.toNat % 16, t) = some (c.toNat, t)
      congr 2
      omega
    simp only [List.cons_append, List.nil_append, readChar, readUnicode, hcode]
    change (if _ then _ else if _ then _ else _) = _
    rw [if_neg (by omega), if_neg (by omega), Char.ofNat_toNat]
    rfl
  · simp [readChar, h₂, h₈]

/-- The text of a string literal is read back. -/
theorem readString_flatMap_escape (s : List Char) (x : List Char) {fuel : ℕ}
    (h : s.length < fuel) : readString fuel (s.flatMap escape ++ '"' :: x) = some (s, x) := by
  induction s generalizing fuel with
  | nil =>
    obtain ⟨fuel, rfl⟩ := Nat.exists_eq_succ_of_ne_zero (Nat.ne_of_gt h)
    simp [readString]
  | cons c s ih =>
    obtain ⟨fuel, rfl⟩ := Nat.exists_eq_succ_of_ne_zero (Nat.ne_of_gt (Nat.lt_of_le_of_lt
      (Nat.zero_le _) h))
    obtain ⟨e, l, he, hne⟩ := CanonicalJson.escape_head_ne c
    have hread := readChar_escape c (s.flatMap escape ++ '"' :: x)
    have hlt : s.length < fuel := by simpa using h
    have hrest := ih hlt
    rw [List.flatMap_cons, List.append_assoc]
    generalize hy : s.flatMap escape ++ '"' :: x = y at *
    rw [he, List.cons_append] at hread ⊢
    rw [readString]
    · simp [hread, hrest]
    · rintro t ht
      rw [List.cons.injEq] at ht
      exact hne ht.1

theorem length_le_flatMap_escape (s : List Char) : s.length ≤ (s.flatMap escape).length := by
  induction s with
  | nil => exact Nat.le_refl 0
  | cons c s ih =>
    obtain ⟨e, l, he, -⟩ := CanonicalJson.escape_head_ne c
    rw [List.flatMap_cons, he, List.length_append, List.length_cons, List.length_cons]
    omega

/-! ## Reading back numbers -/

/-- The text goes on as it does after a value of canonical text. -/
def Ends (x : List Char) : Prop := ∀ c ∈ x.head?, c = ',' ∨ c = ']' ∨ c = '\x7d'

theorem Ends.head {c : Char} {t : List Char} (h : Ends (c :: t)) : c = ',' ∨ c = ']' ∨ c = '\x7d' :=
  h c rfl

/-- A number above zero has no leading zero. -/
theorem toDigits_head_ne_zero {n : ℕ} (h : 0 < n) :
    ∃ c t, Nat.toDigits 10 n = c :: t ∧ c ≠ '0' := by
  induction n using Nat.strong_induction_on with
  | _ n ih =>
    by_cases hlt : n < 10
    · refine ⟨n.digitChar, [], Nat.toDigits_of_lt_base hlt, ?_⟩
      interval_cases n <;> decide
    · obtain ⟨c, t, ht, hc⟩ := ih (n / 10) (by omega) (by omega)
      exact ⟨c, t ++ [(n % 10).digitChar], by
        rw [Nat.toDigits_of_base_le (by decide) (by omega), ht, List.cons_append], hc⟩

theorem span_digits {l x : List Char} (hl : ∀ c ∈ l, c.isDigit = true) (hx : Ends x) :
    (l ++ x).span Char.isDigit = (l, x) := by
  have hnone : x.takeWhile Char.isDigit = [] ∧ x.dropWhile Char.isDigit = x := by
    cases x with
    | nil => exact ⟨rfl, rfl⟩
    | cons c t =>
      have hc : c.isDigit = false := by
        rcases hx.head with rfl | rfl | rfl <;> decide
      exact ⟨List.takeWhile_cons_of_neg (by simp [hc]), List.dropWhile_cons_of_neg (by simp [hc])⟩
  rw [List.span_eq_takeWhile_dropWhile, List.takeWhile_append_of_pos hl,
    List.dropWhile_append_of_pos hl, hnone.1, hnone.2, List.append_nil]

theorem isDigit_of_mem_toDigits {n : ℕ} {c : Char} (h : c ∈ Nat.toDigits 10 n) :
    c.isDigit = true := Nat.isDigit_of_mem_toDigits (by decide) le_rfl h

/-- The digits of a number are read back. -/
theorem readDigits_toDigits (n : ℕ) {x : List Char} (hx : Ends x) :
    readDigits (Nat.toDigits 10 n ++ x) = (Nat.toDigits 10 n, x) := by
  rcases Nat.eq_zero_or_pos n with rfl | hn
  · rw [Nat.toDigits_zero]
    rfl
  · obtain ⟨c, t, ht, hc⟩ := toDigits_head_ne_zero hn
    rw [ht, List.cons_append, readDigits]
    · have hdigit : ∀ d ∈ c :: t, d.isDigit = true := fun d hd =>
        isDigit_of_mem_toDigits (n := n) (ht.symm ▸ hd)
      exact span_digits hdigit hx
    · rintro t' heq
      rw [List.cons.injEq] at heq
      exact hc heq.1

theorem readFraction_of_ends {x : List Char} (hx : Ends x) : readFraction x = ([], x) := by
  unfold readFraction
  split
  · rcases hx.head with h | h | h <;> exact absurd h (by decide)
  · rfl

theorem readExponent_of_ends {x : List Char} (hx : Ends x) : readExponent x = ([], x) := by
  unfold readExponent
  split
  · rcases hx.head with rfl | rfl | rfl <;> rfl
  · rfl

/-- Digits that are delimited are read as an integer. -/
theorem readNumber_of_digits (sign : List Char) {t digits rest text : List Char}
    (htext : (match text with
      | '-' :: t => (['-'], t)
      | _ => ([], text)) = (sign, t))
    (hdigits : readDigits t = (digits, rest)) (hne : digits ≠ []) (hrest : Ends rest) :
    readNumber text = some (.int (CanonicalJson.readInt (sign ++ digits)), rest) := by
  unfold readNumber
  rw [htext]
  obtain ⟨c, l, rfl⟩ := List.exists_cons_of_ne_nil hne
  simp only [hdigits, readFraction_of_ends hrest, readExponent_of_ends hrest, and_self, if_true]

/-- An integer literal is read back. -/
theorem readNumber_repr (n : Int) {x : List Char} (hx : Ends x) :
    readNumber (n.repr.toList ++ x) = some (.int n, x) := by
  have hread := CanonicalJson.readInt_repr n
  rw [Int.repr_eq_if] at hread ⊢
  split at hread
  · next hpos =>
    rw [if_pos hpos]
    rw [Nat.toList_repr] at hread ⊢
    obtain ⟨c, t, ht⟩ := List.exists_cons_of_ne_nil (Nat.toDigits_ne_nil (b := 10) (n := n.toNat))
    have hc : c ≠ '-' := by
      rintro rfl
      have := isDigit_of_mem_toDigits (n := n.toNat) (ht ▸ List.mem_cons_self)
      exact absurd this (by decide)
    refine (readNumber_of_digits [] ?_ (readDigits_toDigits n.toNat hx)
      Nat.toDigits_ne_nil hx).trans ?_
    · rw [ht, List.cons_append]
      split
      · next heq =>
        rw [List.cons.injEq] at heq
        exact absurd heq.1 hc
      · rfl
    · rw [List.nil_append, hread]
  · next hneg =>
    rw [if_neg hneg]
    rw [String.toList_append, Nat.toList_repr] at hread ⊢
    refine (readNumber_of_digits ['-'] ?_ (readDigits_toDigits (-n).toNat hx)
      Nat.toDigits_ne_nil hx).trans ?_
    · rfl
    · exact congrArg (fun m => some (Json.int m, x)) hread

/-! ## Reading back values -/

/-- The first characters of an integer literal. -/
theorem repr_head (n : Int) : ∃ c l, n.repr.toList = c :: l ∧
    (c.isDigit = true ∨ c = '-' ∧ ∃ d l', l = d :: l' ∧ d.isDigit = true) := by
  rw [Int.repr_eq_if]
  split
  · obtain ⟨c, t, ht⟩ := List.exists_cons_of_ne_nil (Nat.toDigits_ne_nil (b := 10) (n := n.toNat))
    exact ⟨c, t, by rw [Nat.toList_repr, ht],
      .inl (isDigit_of_mem_toDigits (ht ▸ List.mem_cons_self))⟩
  · obtain ⟨c, t, ht⟩ := List.exists_cons_of_ne_nil (Nat.toDigits_ne_nil (b := 10)
      (n := (-n).toNat))
    exact ⟨'-', c :: t, by rw [String.toList_append, Nat.toList_repr, ht]; rfl,
      .inr ⟨rfl, c, t, rfl, isDigit_of_mem_toDigits (ht ▸ List.mem_cons_self)⟩⟩

/-- Canonical text starts neither with white space nor with a closing bracket. -/
theorem dumps_head {j : Json} (hj : Accepted j) :
    ∃ c l, dumps j = c :: l ∧ isBlank c = false ∧ c ≠ ']' := by
  cases j with
  | null => exact ⟨'n', _, rfl, by decide, by decide⟩
  | bool b => cases b <;> exact ⟨_, _, rfl, by decide, by decide⟩
  | int n =>
    obtain ⟨c, l, hl, hc⟩ := repr_head n
    refine ⟨c, l, by rw [dumps, hl], ?_⟩
    rcases hc with hc | ⟨rfl, -⟩
    · constructor
      · unfold isBlank
        by_contra hblank
        simp only [Bool.not_eq_false, Bool.or_eq_true, beq_iff_eq] at hblank
        rcases hblank with ((rfl | rfl) | rfl) | rfl <;> exact absurd hc (by decide)
      · rintro rfl
        exact absurd hc (by decide)
    · exact ⟨by decide, by decide⟩
  | float l => exact hj.elim
  | str s => exact ⟨'"', _, rfl, by decide, by decide⟩
  | arr items => exact ⟨'[', _, rfl, by decide, by decide⟩
  | obj fields => exact ⟨'\x7b', _, rfl, by decide, by decide⟩

theorem skipBlanks_cons {c : Char} (hc : isBlank c = false) (t : List Char) :
    skipBlanks (c :: t) = c :: t :=
  List.dropWhile_cons_of_neg (by simp [hc])

theorem skipBlanks_dumps {j : Json} (hj : Accepted j) (x : List Char) :
    skipBlanks (dumps j ++ x) = dumps j ++ x := by
  obtain ⟨c, l, hl, hc, -⟩ := dumps_head hj
  rw [hl]
  exact skipBlanks_cons hc _

theorem skipBlanks_of_ends {x : List Char} (hx : Ends x) : skipBlanks x = x := by
  cases x with
  | nil => rfl
  | cons c t =>
    refine skipBlanks_cons ?_ t
    rcases hx.head with rfl | rfl | rfl <;> decide

/-- An integer literal is read by the last rule for values. -/
theorem readValue_repr (n : Int) {x : List Char} (hx : Ends x) (fuel : ℕ) :
    readValue (fuel + 1) (n.repr.toList ++ x) = some (.int n, x) := by
  have hnumber := readNumber_repr n hx
  obtain ⟨c, l, hl, hc⟩ := repr_head n
  rw [hl, List.cons_append] at hnumber ⊢
  have hne : ∀ d, d.isDigit = false → d ≠ '-' → c ≠ d := by
    rintro d hd hd' rfl
    rcases hc with hc | ⟨rfl, -⟩
    · rw [hd] at hc
      cases hc
    · exact hd' rfl
  have hinfinity : ∀ t, c = '-' → l ++ x ≠ 'I' :: t := by
    rintro t rfl heq
    rcases hc with hc | ⟨-, d, l', rfl, hd⟩
    · exact absurd hc (by decide)
    · rw [List.cons_append, List.cons.injEq] at heq
      rw [heq.1] at hd
      exact absurd hd (by decide)
  -- no other rule fits: a literal starts with a digit, or with a sign and a digit
  rw [readValue]
  · exact hnumber
  all_goals
    rintro t heq
    rw [List.cons.injEq] at heq
  all_goals first
    | exact hne _ (by decide) (by decide) heq.1
    | exact hinfinity _ heq.1 heq.2

/-- Fields with distinct keys are the fields of their object. -/
theorem objectOf_eq {fields : Fields} (h : (fields.map Prod.fst).Nodup) :
    objectOf fields = .obj fields := by
  have haux : ∀ (l : Fields) (d : Ordered.Dict String Json),
      ((d.entries ++ l).map Prod.fst).Nodup →
      (l.foldl (fun d f => d.set f.1 f.2) d).entries = d.entries ++ l := by
    intro l
    induction l with
    | nil => simp
    | cons f l ih =>
      intro d hnd
      have hnone : f.1 ∉ d.entries.map Prod.fst := by
        rw [List.map_append, List.map_cons, List.nodup_append] at hnd
        exact fun hmem => hnd.2.2 _ hmem _ List.mem_cons_self rfl
      rw [List.foldl_cons, ih]
      · rw [Ordered.Dict.entries_set_of_not_mem hnone, List.append_assoc]
        rfl
      · rw [Ordered.Dict.entries_set_of_not_mem hnone, List.append_assoc]
        exact hnd
  unfold objectOf
  rw [haux fields .empty (by simpa [Ordered.Dict.empty] using h)]
  rfl

/-- An opening bracket starts an array. -/
theorem readValue_bracket {fuel : ℕ} {t y : List Char} {c : Char} (ht : skipBlanks t = c :: y)
    (hc : c ≠ ']') : readValue (fuel + 1) ('[' :: t) =
      (readItems fuel (c :: y)).bind fun p => some (.arr p.1, p.2) := by
  rw [readValue, ht]
  split
  · next heq =>
    rw [List.cons.injEq] at heq
    exact absurd heq.1 hc
  · rfl

/-- An opening brace starts an object. -/
theorem readValue_brace {fuel : ℕ} {t y : List Char} (ht : t = '"' :: y) :
    readValue (fuel + 1) ('\x7b' :: t) =
      (readFields fuel t).bind fun p => some (objectOf p.1, p.2) := by
  subst ht
  rfl

/-- A quote starts a field. -/
theorem readFields_quote {fuel : ℕ} {t y z key : List Char} {value : Json}
    (hkey : readString fuel t = some (key, ':' :: y)) (hskip : skipBlanks y = y)
    (hvalue : readValue fuel y = some (value, z)) :
    readFields (fuel + 1) ('"' :: t) =
      match skipBlanks z with
      | '\x7d' :: rest => some ([(String.ofList key, value)], rest)
      | ',' :: t => (readFields fuel (skipBlanks t)).bind fun p =>
          some ((String.ofList key, value) :: p.1, p.2)
      | _ => none := by
  rw [readFields, hkey]
  change (readValue fuel (skipBlanks y)).bind _ = _
  rw [hskip, hvalue]
  rfl

theorem length_dumpsFields (k : String) (a : Json) (t : Fields) :
    (dumpsFields ((k, a) :: t)).length =
      (k.toList.flatMap escape).length + (dumps a).length + (dumpsMoreFields t).length + 3 := by
  simp only [dumpsFields, quote, List.length_append, List.length_cons, List.length_nil]
  omega

mutual

/-- The canonical text of a value is read back. -/
theorem readValue_dumps : ∀ (j : Json) (x : List Char) (fuel : ℕ), Accepted j → j.DistinctKeys →
    Ends x → (dumps j).length ≤ fuel → readValue fuel (dumps j ++ x) = some (j, x)
  | j, x, 0, hj, _, _, hfuel => by
    obtain ⟨c, l, hl, -⟩ := dumps_head hj
    rw [hl] at hfuel
    cases hfuel
  | .null, x, fuel + 1, _, _, _, _ => rfl
  | .bool true, x, fuel + 1, _, _, _, _ => rfl
  | .bool false, x, fuel + 1, _, _, _, _ => rfl
  | .int n, x, fuel + 1, _, _, hx, _ => readValue_repr n hx fuel
  | .float _, _, _ + 1, hj, _, _, _ => hj.elim
  | .str s, x, fuel + 1, _, _, _, hfuel => by
    have hlen : s.toList.length < fuel := by
      have hle := length_le_flatMap_escape s.toList
      simp only [dumps, quote, List.length_cons, List.length_append, List.length_nil] at hfuel
      omega
    simp only [dumps, quote, List.cons_append, List.append_assoc, List.nil_append, readValue,
      readString_flatMap_escape s.toList x hlen]
    simp
  | .arr [], x, fuel + 1, _, _, _, _ => rfl
  | .arr (a :: t), x, fuel + 1, hj, hd, _, hfuel => by
    have hread := readItems_dumpsItems a t x fuel hj hd (by simpa [dumps] using hfuel)
    obtain ⟨c, l, hl, hblank, hclose⟩ := dumps_head hj.1
    have htext : dumpsItems (a :: t) ++ x = c :: (l ++ dumpsMoreItems t ++ x) := by
      rw [dumpsItems, hl]
      simp
    have hskip := skipBlanks_cons hblank (l ++ dumpsMoreItems t ++ x)
    rw [htext] at hread
    rw [dumps, List.cons_append, htext, readValue_bracket hskip hclose, hread]
    rfl
  | .obj [], x, fuel + 1, _, _, _, _ => rfl
  | .obj ((k, a) :: t), x, fuel + 1, hj, hd, _, hfuel => by
    have hread := readFields_dumpsFields k a t x fuel hj hd.2 (by simpa [dumps] using hfuel)
    have htext : ∃ y, dumpsFields ((k, a) :: t) ++ x = '"' :: y := ⟨_, rfl⟩
    obtain ⟨y, hy⟩ := htext
    rw [dumps, List.cons_append, readValue_brace hy, hread]
    exact congrArg (fun j => some (j, x)) (objectOf_eq hd.1)

/-- The items of an array are read back. -/
theorem readItems_dumpsItems : ∀ (a : Json) (t : List Json) (x : List Char) (fuel : ℕ),
    AcceptedItems (a :: t) → Json.DistinctKeysItems (a :: t) →
    (dumpsItems (a :: t)).length ≤ fuel →
    readItems fuel (dumpsItems (a :: t) ++ x) = some (a :: t, x)
  | a, t, x, 0, hj, _, hfuel => by
    obtain ⟨c, l, hl, -⟩ := dumps_head hj.1
    rw [dumpsItems, hl] at hfuel
    cases hfuel
  | a, [], x, fuel + 1, hj, hd, hfuel => by
    have hread := readValue_dumps a (']' :: x) fuel hj.1 hd.1 (by simp [Ends])
      (by simpa [dumpsItems, dumpsMoreItems] using hfuel)
    rw [dumpsItems, dumpsMoreItems, List.append_assoc, List.singleton_append, readItems, hread]
    rfl
  | a, b :: t, x, fuel + 1, hj, hd, hfuel => by
    have hlen : (dumps a).length + (dumpsItems (b :: t)).length ≤ fuel := by
      simp only [dumpsItems, dumpsMoreItems, List.length_append, List.length_cons] at hfuel ⊢
      omega
    have hread := readValue_dumps a (',' :: (dumpsItems (b :: t) ++ x)) fuel hj.1 hd.1
      (by simp [Ends]) (by omega)
    have hrest := readItems_dumpsItems b t x fuel hj.2 hd.2 (by omega)
    have htext : dumpsItems (a :: b :: t) ++ x = dumps a ++ ',' :: (dumpsItems (b :: t) ++ x) := by
      simp [dumpsItems, dumpsMoreItems]
    have hskip : skipBlanks (dumpsItems (b :: t) ++ x) = dumpsItems (b :: t) ++ x := by
      rw [dumpsItems, List.append_assoc]
      exact skipBlanks_dumps hj.2.1 _
    rw [htext, readItems, hread]
    change (readItems fuel (skipBlanks (dumpsItems (b :: t) ++ x))).bind _ = _
    rw [hskip, hrest]
    rfl

/-- The fields of an object are read back. -/
theorem readFields_dumpsFields : ∀ (k : String) (a : Json) (t : Fields) (x : List Char) (fuel : ℕ),
    AcceptedFields ((k, a) :: t) → Json.DistinctKeysFields ((k, a) :: t) →
    (dumpsFields ((k, a) :: t)).length ≤ fuel →
    readFields fuel (dumpsFields ((k, a) :: t) ++ x) = some ((k, a) :: t, x)
  | k, a, t, x, 0, _, _, hfuel => by
    rw [dumpsFields] at hfuel
    cases hfuel
  | k, a, [], x, fuel + 1, hj, hd, hfuel => by
    have hlen := length_dumpsFields k a []
    have hkey := length_le_flatMap_escape k.toList
    have hread := readValue_dumps a ('\x7d' :: x) fuel hj.1 hd.1 (by simp [Ends]) (by omega)
    have htext : dumpsFields [(k, a)] ++ x =
        '"' :: (k.toList.flatMap escape ++ '"' :: ':' :: (dumps a ++ '\x7d' :: x)) := by
      simp [dumpsFields, dumpsMoreFields, quote]
    rw [htext, readFields_quote (readString_flatMap_escape k.toList _ (by omega))
      (skipBlanks_dumps hj.1 _) hread, String.ofList_toList]
    rfl
  | k, a, (l, b) :: t, x, fuel + 1, hj, hd, hfuel => by
    have hlen := length_dumpsFields k a ((l, b) :: t)
    have hkey := length_le_flatMap_escape k.toList
    have hlen' : (dumpsMoreFields ((l, b) :: t)).length = (dumpsFields ((l, b) :: t)).length + 1 := rfl
    have hread := readValue_dumps a (',' :: (dumpsFields ((l, b) :: t) ++ x)) fuel hj.1 hd.1
      (by simp [Ends]) (by omega)
    have hrest := readFields_dumpsFields l b t x fuel hj.2 hd.2 (by omega)
    have htext : dumpsFields ((k, a) :: (l, b) :: t) ++ x =
        '"' :: (k.toList.flatMap escape ++
          '"' :: ':' :: (dumps a ++ ',' :: (dumpsFields ((l, b) :: t) ++ x))) := by
      simp [dumpsFields, dumpsMoreFields, quote]
    rw [htext, readFields_quote (readString_flatMap_escape k.toList _ (by omega))
      (skipBlanks_dumps hj.1 _) hread]
    change (readFields fuel (dumpsFields ((l, b) :: t) ++ x)).bind _ = _
    rw [hrest, String.ofList_toList]
    rfl

end

/-- The text of a value decodes to the value. -/
theorem decodeText_dumps {j : Json} (hj : Accepted j) (hd : j.DistinctKeys) :
    decodeText (dumps j) = some j := by
  have hread := readValue_dumps j [] ((dumps j).length + 1) hj hd (by simp [Ends]) (by omega)
  have hskip := skipBlanks_dumps hj []
  rw [List.append_nil] at hread hskip
  unfold decodeText
  rw [hskip, hread]
  rfl

end JsonDecoder

theorem jsonDecode_utf8Bytes {j : Json} (hj : CanonicalJson.Accepted j) (hd : j.DistinctKeys) :
    jsonDecode (utf8Bytes (CanonicalJson.dumps j)) = some j := by
  have hutf8 : utf8Bytes (CanonicalJson.dumps j) = (CanonicalJson.dumps j).utf8Encode :=
    ByteArray.ext (by simp [utf8Bytes, List.utf8Encode])
  unfold jsonDecode
  rw [hutf8, List.utf8Decode?_utf8Encode]
  exact JsonDecoder.decodeText_dumps hj hd

theorem distinctKeysFields_iff {l : Fields} :
    Json.DistinctKeysFields l ↔ ∀ f ∈ l, f.2.DistinctKeys := by
  induction l with
  | nil => simp [Json.DistinctKeysFields]
  | cons f t ih =>
    obtain ⟨k, a⟩ := f
    simp [Json.DistinctKeysFields, ih]

mutual

/-- Sorting keys keeps them distinct. -/
theorem distinctKeys_sortKeys : ∀ j : Json, j.DistinctKeys → (CanonicalJson.sortKeys j).DistinctKeys
  | .null, _ | .bool _, _ | .int _, _ | .float _, _ | .str _, _ => trivial
  | .arr items, h => distinctKeysItems_sortKeys items h
  | .obj fields, h => by
    refine ⟨?_, ?_⟩
    · rw [((List.perm_insertionSort _ _).map Prod.fst).nodup_iff,
        keys_sortKeysFields]
      exact h.1
    · rw [distinctKeysFields_iff]
      intro f hf
      rw [List.mem_insertionSort] at hf
      exact distinctKeysFields_iff.mp (distinctKeysFields_sortKeys fields h.2) f hf

theorem distinctKeysItems_sortKeys : ∀ l : List Json, Json.DistinctKeysItems l →
    Json.DistinctKeysItems (CanonicalJson.sortKeysItems l)
  | [], _ => trivial
  | a :: t, h => ⟨distinctKeys_sortKeys a h.1, distinctKeysItems_sortKeys t h.2⟩

theorem distinctKeysFields_sortKeys : ∀ l : Fields, Json.DistinctKeysFields l →
    Json.DistinctKeysFields (CanonicalJson.sortKeysFields l)
  | [], _ => trivial
  | (_, a) :: t, h => ⟨distinctKeys_sortKeys a h.1, distinctKeysFields_sortKeys t h.2⟩

end

end RailOne
