import Mathlib.Data.List.Basic
import Mathlib.Data.Nat.Notation

/-!
# Base64 with the URL-safe alphabet

The encoder writes no padding.  The decoder is the lenient one of most libraries: it passes over
characters outside the alphabet, takes both spellings of the last two digits, and stops at a padding
that completes a group.  What the encoder writes, with the padding that its length asks for, is
decoded to what was encoded.

The strict decoder refuses characters outside the alphabet and whatever follows a padding.  On digits
with the padding that they need, the two decoders agree.
-/

namespace Base64

/-- The digits, in the order of their values. -/
def alphabet : List Char :=
  "ABCDEFGHIJKLMNOPQRSTUVWXYZabcdefghijklmnopqrstuvwxyz0123456789-_".toList

/-- The digit with a given value. -/
def digit (n : ℕ) : Char := alphabet.getD n 'A'

/-- The value of a digit. -/
def value (c : Char) : Option ℕ :=
  if 'A' ≤ c ∧ c ≤ 'Z' then some (c.toNat - 65)
  else if 'a' ≤ c ∧ c ≤ 'z' then some (c.toNat - 97 + 26)
  else if '0' ≤ c ∧ c ≤ '9' then some (c.toNat - 48 + 52)
  else if c = '-' ∨ c = '+' then some 62
  else if c = '_' ∨ c = '/' then some 63
  else none

/-- Encode bytes, three of them in four digits. -/
def encode : List UInt8 → List Char
  | [] => []
  | [a] => [digit (a.toNat / 4), digit (a.toNat % 4 * 16)]
  | [a, b] => [digit (a.toNat / 4), digit (a.toNat % 4 * 16 + b.toNat / 16),
      digit (b.toNat % 16 * 4)]
  | a :: b :: c :: t => digit (a.toNat / 4) :: digit (a.toNat % 4 * 16 + b.toNat / 16) ::
      digit (b.toNat % 16 * 4 + c.toNat / 64) :: digit (c.toNat % 64) :: encode t

/-- The padding that completes a text of the given length. -/
def padding (length : ℕ) : List Char := List.replicate ((4 - length % 4) % 4) '='

/-- Decode what is left of a text: `quad` digits of the current group have been read, `pads` padding
characters since, and `left` are the bits that no byte holds yet. -/
def decodeFrom (quad pads left : ℕ) : List Char → Option (List UInt8)
  | [] => if quad = 0 then some [] else none
  | c :: t =>
    if c = '=' then
      if quad < 2 then decodeFrom quad pads left t
      else if 4 ≤ quad + (pads + 1) then some []
      else decodeFrom quad (pads + 1) left t
    else match value c with
      | none => decodeFrom quad pads left t
      | some v =>
        match quad with
        | 0 => decodeFrom 1 0 v t
        | 1 => (decodeFrom 2 0 (v % 16) t).map (UInt8.ofNat (left * 4 + v / 16) :: ·)
        | 2 => (decodeFrom 3 0 (v % 4) t).map (UInt8.ofNat (left * 16 + v / 4) :: ·)
        | _ => (decodeFrom 0 0 0 t).map (UInt8.ofNat (left * 64 + v) :: ·)

/-- Decode a text, which must be ASCII. -/
def decode (text : List Char) : Option (List UInt8) :=
  if text.all fun c => c.toNat < 128 then decodeFrom 0 0 0 text else none

/-- Decode what is left of a text strictly: `padded` after the first padding character. -/
def decodeStrictFrom (quad pads left : ℕ) (padded : Bool) : List Char → Option (List UInt8)
  | [] => if quad = 0 then some [] else none
  | c :: t =>
    if c = '=' then
      if quad < 2 then decodeStrictFrom quad pads left true t
      else if 4 ≤ quad + (pads + 1) then if t = [] then some [] else none
      else decodeStrictFrom quad (pads + 1) left true t
    else match value c with
      | none => none
      | some v =>
        if padded then none
        else match quad with
          | 0 => decodeStrictFrom 1 0 v false t
          | 1 => (decodeStrictFrom 2 0 (v % 16) false t).map (UInt8.ofNat (left * 4 + v / 16) :: ·)
          | 2 => (decodeStrictFrom 3 0 (v % 4) false t).map (UInt8.ofNat (left * 16 + v / 4) :: ·)
          | _ => (decodeStrictFrom 0 0 0 false t).map (UInt8.ofNat (left * 64 + v) :: ·)

/-- Decode a text strictly.  It must be ASCII, and no padding may stand in front. -/
def decodeStrict (text : List Char) : Option (List UInt8) :=
  if text.all (fun c => c.toNat < 128) ∧ text.head? ≠ some '=' then decodeStrictFrom 0 0 0 false text
  else none

/-- The digits in turn: their values, no padding, and ASCII. -/
theorem digits :
    alphabet.length = 64 ∧ digit 0 = 'A' ∧
      ∀ n < 64, value (digit n) = some n ∧ digit n ≠ '=' ∧ (digit n).toNat < 128 := by
  decide +kernel

theorem value_digit {n : ℕ} (hn : n < 64) : value (digit n) = some n :=
  (digits.2.2 n hn).1

theorem digit_ne_pad {n : ℕ} (hn : n < 64) : digit n ≠ '=' :=
  (digits.2.2 n hn).2.1

/-- Beyond 63, the first digit stands in. -/
theorem exists_digit (n : ℕ) : ∃ m < 64, digit n = digit m := by
  rcases Nat.lt_or_ge n 64 with hn | hn
  · exact ⟨n, hn, rfl⟩
  · refine ⟨0, by omega, ?_⟩
    have hlength : alphabet.length ≤ n := by rw [digits.1]; exact hn
    rw [digits.2.1, digit, List.getD_eq_getElem?_getD, List.getElem?_eq_none hlength, Option.getD_none]

theorem digit_mem (n : ℕ) : digit n ∈ alphabet := by
  obtain ⟨m, hm, heq⟩ := exists_digit n
  have hlength : m < alphabet.length := by rw [digits.1]; exact hm
  rw [heq, digit, List.getD_eq_getElem?_getD, List.getElem?_eq_getElem hlength, Option.getD_some]
  exact List.getElem_mem hlength

theorem digit_ascii (n : ℕ) : (digit n).toNat < 128 := by
  obtain ⟨m, hm, heq⟩ := exists_digit n
  rw [heq]
  exact (digits.2.2 m hm).2.2

/-- What holds of every digit holds of every character of an encoded text. -/
theorem forall_mem_encode {p : Char → Prop} (h : ∀ n, p (digit n)) (l : List UInt8) :
    ∀ c ∈ encode l, p c := by
  fun_induction encode l with
  | case1 => nofun
  | case2 a => simp [h]
  | case3 a b => simp [h]
  | case4 a b c t ih =>
    intro x hx
    simp only [List.mem_cons] at hx
    rcases hx with rfl | rfl | rfl | rfl | hx
    · exact h _
    · exact h _
    · exact h _
    · exact h _
    · exact ih x hx

theorem ascii_encode (l : List UInt8) : ∀ c ∈ encode l, c.toNat < 128 :=
  forall_mem_encode digit_ascii l

/-- Three bytes take four digits, and one or two bytes that are left take one digit more than they are. -/
theorem length_encode (l : List UInt8) : (encode l).length = (4 * l.length + 2) / 3 := by
  fun_induction encode l with
  | case1 => rfl
  | case2 a => simp
  | case3 a b => simp
  | case4 a b c t ih =>
    simp only [List.length_cons, ih]
    omega

/-- A digit at the start of a group. -/
theorem decodeFrom_zero {v : ℕ} (hv : v < 64) (t : List Char) :
    decodeFrom 0 0 0 (digit v :: t) = decodeFrom 1 0 v t := by
  simp only [decodeFrom, if_neg (digit_ne_pad hv), value_digit hv]

theorem decodeFrom_one {v left : ℕ} (hv : v < 64) (t : List Char) :
    decodeFrom 1 0 left (digit v :: t) =
      (decodeFrom 2 0 (v % 16) t).map (UInt8.ofNat (left * 4 + v / 16) :: ·) := by
  simp only [decodeFrom, if_neg (digit_ne_pad hv), value_digit hv]

theorem decodeFrom_two {v left : ℕ} (hv : v < 64) (t : List Char) :
    decodeFrom 2 0 left (digit v :: t) =
      (decodeFrom 3 0 (v % 4) t).map (UInt8.ofNat (left * 16 + v / 4) :: ·) := by
  simp only [decodeFrom, if_neg (digit_ne_pad hv), value_digit hv]

theorem decodeFrom_three {v left : ℕ} (hv : v < 64) (t : List Char) :
    decodeFrom 3 0 left (digit v :: t) =
      (decodeFrom 0 0 0 t).map (UInt8.ofNat (left * 64 + v) :: ·) := by
  simp only [decodeFrom, if_neg (digit_ne_pad hv), value_digit hv]

theorem ofNat_eq {n : ℕ} {a : UInt8} (h : n = a.toNat) : UInt8.ofNat n = a := by
  rw [h, UInt8.ofNat_toNat]

/-- The two digits that hold the first byte of a group. -/
theorem decodeFrom_byte {a : UInt8} {low : ℕ} (hlow : low < 16) (t : List Char) :
    decodeFrom 0 0 0 (digit (a.toNat / 4) :: digit (a.toNat % 4 * 16 + low) :: t) =
      (decodeFrom 2 0 low t).map (a :: ·) := by
  have ha := a.toNat_lt
  have hbyte : UInt8.ofNat (a.toNat / 4 * 4 + (a.toNat % 4 * 16 + low) / 16) = a :=
    ofNat_eq (by omega)
  have hrest : (a.toNat % 4 * 16 + low) % 16 = low := by omega
  rw [decodeFrom_zero (by omega), decodeFrom_one (by omega), hbyte, hrest]

/-- The digit that completes the second byte of a group. -/
theorem decodeFrom_second {b : UInt8} {low : ℕ} (hlow : low < 4) (t : List Char) :
    decodeFrom 2 0 (b.toNat / 16) (digit (b.toNat % 16 * 4 + low) :: t) =
      (decodeFrom 3 0 low t).map (b :: ·) := by
  have hb := b.toNat_lt
  have hbyte : UInt8.ofNat (b.toNat / 16 * 16 + (b.toNat % 16 * 4 + low) / 4) = b :=
    ofNat_eq (by omega)
  have hrest : (b.toNat % 16 * 4 + low) % 4 = low := by omega
  rw [decodeFrom_two (by omega), hbyte, hrest]

theorem decodeFrom_encode (l : List UInt8) :
    decodeFrom 0 0 0 (encode l ++ padding (encode l).length) = some l := by
  fun_induction encode l with
  | case1 => rfl
  | case2 a =>
    have hbyte := @decodeFrom_byte a 0 (by omega) ['=', '=']
    rw [Nat.add_zero] at hbyte
    exact hbyte
  | case3 a b =>
    have hlow : b.toNat / 16 < 16 := by
      have hb := b.toNat_lt
      omega
    have hsecond := @decodeFrom_second b 0 (by omega) ['=']
    rw [Nat.add_zero] at hsecond
    have hbyte := decodeFrom_byte (a := a) hlow (digit (b.toNat % 16 * 4) :: ['='])
    rw [hsecond] at hbyte
    exact hbyte
  | case4 a b c t ih =>
    have hb := b.toNat_lt
    have hc := c.toNat_lt
    have hthird : UInt8.ofNat (c.toNat / 64 * 64 + c.toNat % 64) = c := ofNat_eq (by omega)
    have hpadding : padding ((encode t).length + 4) = padding (encode t).length := by
      simp [padding]
    simp only [List.cons_append, List.length_cons]
    rw [decodeFrom_byte (by omega), decodeFrom_second (by omega), decodeFrom_three (by omega), hthird,
      hpadding, ih]
    rfl

/-- What has been encoded is decoded. -/
theorem decode_encode (l : List UInt8) :
    decode (encode l ++ padding (encode l).length) = some l := by
  have hascii : (encode l ++ padding (encode l).length).all (fun c => c.toNat < 128) = true := by
    rw [List.all_eq_true]
    intro c hc
    rw [decide_eq_true_eq]
    rcases List.mem_append.mp hc with hc | hc
    · exact ascii_encode l c hc
    · rw [List.eq_of_mem_replicate hc]
      decide
  rw [decode, if_pos hascii, decodeFrom_encode]

/-! ## The strict decoder -/

/-- On digits and the padding that completes their last group, the strict decoder reads what the lenient
one reads. -/
theorem decodeStrictFrom_eq {x : List Char} {quad left n : ℕ} (hx : ∀ c ∈ x, c ≠ '=' ∧ value c ≠ none)
    (hquad : quad < 4) (hn : n ≤ 2) (hgroup : (quad + x.length + n) % 4 = 0) :
    decodeStrictFrom quad 0 left false (x ++ List.replicate n '=') =
      decodeFrom quad 0 left (x ++ List.replicate n '=') := by
  induction x generalizing quad left with
  | nil =>
    have hcases : (quad = 0 ∧ n = 0) ∨ (quad = 3 ∧ n = 1) ∨ (quad = 2 ∧ n = 2) := by
      simp only [List.length_nil] at hgroup
      omega
    rcases hcases with ⟨rfl, rfl⟩ | ⟨rfl, rfl⟩ | ⟨rfl, rfl⟩
    · rfl
    · rfl
    · rfl
  | cons c x ih =>
    obtain ⟨hpad, hvalue⟩ := hx c List.mem_cons_self
    obtain ⟨v, hv⟩ := Option.ne_none_iff_exists'.mp hvalue
    have hrest : ∀ d ∈ x, d ≠ '=' ∧ value d ≠ none := fun d hd => hx d (List.mem_cons_of_mem c hd)
    rw [List.length_cons] at hgroup
    have hstep : ∀ quad' left', quad' < 4 → (quad' + x.length + n) % 4 = 0 →
        decodeStrictFrom quad' 0 left' false (x ++ List.replicate n '=') =
          decodeFrom quad' 0 left' (x ++ List.replicate n '=') :=
      fun _ _ hquad' hgroup' => ih hrest hquad' hgroup'
    rw [List.cons_append]
    simp only [decodeStrictFrom, decodeFrom, if_neg hpad, hv, Bool.false_eq_true, if_false]
    rcases quad with _ | _ | _ | quad
    · exact hstep 1 v (by omega) (by omega)
    · exact congrArg (Option.map _) (hstep 2 (v % 16) (by omega) (by omega))
    · exact congrArg (Option.map _) (hstep 3 (v % 4) (by omega) (by omega))
    · exact congrArg (Option.map _) (hstep 0 0 (by omega) (by omega))

/-- The digits of an encoded text. -/
theorem value_of_mem_encode {l : List UInt8} : ∀ c ∈ encode l, c ≠ '=' ∧ value c ≠ none := by
  refine forall_mem_encode (fun n => ?_) l
  obtain ⟨m, hm, heq⟩ := exists_digit n
  rw [heq, value_digit hm]
  exact ⟨digit_ne_pad hm, nofun⟩

/-- What has been encoded is decoded strictly. -/
theorem decodeStrict_encode (l : List UInt8) :
    decodeStrict (encode l ++ padding (encode l).length) = some l := by
  have hdecode := decode_encode l
  unfold decode at hdecode
  split at hdecode
  · next hascii =>
    have hlength := length_encode l
    have hhead : (encode l ++ padding (encode l).length).head? ≠ some '=' := by
      cases hl : encode l with
      | nil => nofun
      | cons c t =>
        have hc := (value_of_mem_encode (l := l) c (hl ▸ List.mem_cons_self)).1
        rwa [List.cons_append, List.head?_cons, ne_eq, Option.some.injEq]
    rw [decodeStrict, if_pos ⟨hascii, hhead⟩, ← hdecode]
    exact decodeStrictFrom_eq value_of_mem_encode (by omega) (by omega) (by omega)
  · cases hdecode

end Base64
