import RailOneCore.Foundation.Text

/-!
# Whole seconds

`int(t.timestamp())` rounds an instant to a double and cuts off its fraction.  The result is one of the
two whole seconds next to the instant, and never decreases when the instant grows.
-/

namespace RailOne

theorem roundHalfEven_bounds (n d : ℕ) :
    n / d ≤ roundHalfEven n d ∧ roundHalfEven n d ≤ n / d + 1 := by
  unfold roundHalfEven
  split_ifs <;> omega

theorem roundHalfEven_mono {m n d : ℕ} (h : m ≤ n) :
    roundHalfEven m d ≤ roundHalfEven n d := by
  have hquot : m / d ≤ n / d := Nat.div_le_div_right h
  rcases hquot.lt_or_eq with hlt | heq
  · exact (roundHalfEven_bounds m d).2.trans (hlt.trans_le (roundHalfEven_bounds n d).1)
  · have hm := Nat.div_add_mod m d
    have hn := Nat.div_add_mod n d
    have hrem : m % d ≤ n % d := by
      rw [heq] at hm
      omega
    unfold roundHalfEven
    rw [heq]
    split_ifs <;> omega

/-- The whole seconds of a duration in microseconds. -/
def wholeSeconds (n : ℕ) : ℕ :=
  let bits := 52 - Nat.log2 (n / 1000000)
  roundHalfEven (n * 2 ^ bits) 1000000 / 2 ^ bits

theorem epochSeconds_eq (t : Instant) : epochSeconds t = t.sign * wholeSeconds t.natAbs := rfl

theorem wholeSeconds_bounds (n : ℕ) :
    n / 1000000 ≤ wholeSeconds n ∧ wholeSeconds n ≤ n / 1000000 + 1 := by
  unfold wholeSeconds
  dsimp only
  generalize 52 - Nat.log2 (n / 1000000) = bits
  have hpos : 0 < 2 ^ bits := Nat.two_pow_pos bits
  have hfloor : n * 2 ^ bits / 1000000 / 2 ^ bits = n / 1000000 := by
    rw [Nat.div_div_eq_div_mul, Nat.mul_comm 1000000, ← Nat.div_div_eq_div_mul, Nat.mul_div_cancel _ hpos]
  obtain ⟨hlow, hhigh⟩ := roundHalfEven_bounds (n * 2 ^ bits) 1000000
  constructor
  · rw [← hfloor]
    exact Nat.div_le_div_right hlow
  · calc roundHalfEven (n * 2 ^ bits) 1000000 / 2 ^ bits
        ≤ (n * 2 ^ bits / 1000000 + 2 ^ bits) / 2 ^ bits := Nat.div_le_div_right (by omega)
      _ = n / 1000000 + 1 := by rw [Nat.add_div_right _ hpos, hfloor]

theorem wholeSeconds_mono {m n : ℕ} (h : m ≤ n) : wholeSeconds m ≤ wholeSeconds n := by
  have hquot : m / 1000000 ≤ n / 1000000 := Nat.div_le_div_right h
  rcases hquot.lt_or_eq with hlt | heq
  · exact (wholeSeconds_bounds m).2.trans (hlt.trans_le (wholeSeconds_bounds n).1)
  · -- the same number of significant bits is kept
    unfold wholeSeconds
    rw [heq]
    exact Nat.div_le_div_right (roundHalfEven_mono (Nat.mul_le_mul_right _ h))

/-- Later instants have no earlier seconds. -/
theorem epochSeconds_mono {s t : ℤ} (h : s ≤ t) : epochSeconds s ≤ epochSeconds t := by
  rw [epochSeconds_eq, epochSeconds_eq]
  have hs : 0 ≤ (wholeSeconds s.natAbs : ℤ) := Int.natCast_nonneg _
  have ht : 0 ≤ (wholeSeconds t.natAbs : ℤ) := Int.natCast_nonneg _
  rcases Int.lt_or_le s 0 with hneg | hpos
  · rw [Int.sign_eq_neg_one_of_neg hneg]
    rcases Int.lt_or_le t 0 with htneg | htpos
    · have hle : wholeSeconds t.natAbs ≤ wholeSeconds s.natAbs := wholeSeconds_mono (by omega)
      rw [Int.sign_eq_neg_one_of_neg htneg]
      omega
    · have hsign : 0 ≤ t.sign := Int.sign_nonneg_iff.mpr htpos
      have hprod : 0 ≤ t.sign * (wholeSeconds t.natAbs : ℤ) := Int.mul_nonneg hsign ht
      omega
  · have hle : wholeSeconds s.natAbs ≤ wholeSeconds t.natAbs := wholeSeconds_mono (by omega)
    have hseconds (n : ℤ) (hn : 0 ≤ n) : n.sign * (wholeSeconds n.natAbs : ℤ) = wholeSeconds n.natAbs := by
      rcases hn.lt_or_eq with hpos | rfl
      · rw [Int.sign_eq_one_of_pos hpos, one_mul]
      · rfl
    rw [hseconds s hpos, hseconds t (hpos.trans h)]
    exact_mod_cast hle

end RailOne
