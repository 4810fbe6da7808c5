import Mathlib

/-!
# Exceptions, text and instants

The values that every RailOne service handles before it touches a store: raised exceptions with
their class and message, trimmed text, integer minor units and UTC instants.

Text is trimmed with the full Unicode white-space set of `str.strip`.  Instants are integers counting
microseconds from the epoch, the resolution of `datetime`; `epochSeconds` is `int(t.timestamp())`.
-/

namespace RailOne

/-! ## Exceptions -/

/-- The exception classes that the modelled code raises or catches. -/
inductive ExnKind
  | valueError | typeError | keyError | lookupError | permissionError | runtimeError
  | overflowError | osError | zeroDivisionError
  | canonicalizationError
  | uttNotFound | idempotencyConflict | quoteAlreadyAccepted
  | noEligibleRoute | planNotExecutable | executionPlanNotFound | rttNotFound
  | concurrentPlanUpdate | executionPlanConflict
  | submissionNotFound | concurrentSubmissionUpdate | submissionNotDispatchable
  | projectionEventConflict | callbackPayloadConflict | settlementConflict
  | transactionProjectionNotFound | transactionAccessDenied | accessToken | envelopeIntegrity
  /-- An exception of code that is not modelled (an adapter, a publisher, a resolver). -/
  | external
  deriving DecidableEq, Repr

/-- A raised exception. -/
structure Exn where
  kind : ExnKind
  message : String
  deriving DecidableEq, Repr

/-- `CanonicalizationError` is a `ValueError`; this is `isinstance(exc, ValueError)`. -/
def Exn.isValueError (e : Exn) : Bool :=
  e.kind == .valueError || e.kind == .canonicalizationError

/-- `type(exc).__name__`.  An exception of code that is not modelled carries its class name as its
message. -/
def Exn.className (e : Exn) : String :=
  match e.kind with
  | .valueError => "ValueError"
  | .typeError => "TypeError"
  | .keyError => "KeyError"
  | .lookupError => "LookupError"
  | .permissionError => "PermissionError"
  | .runtimeError => "RuntimeError"
  | .overflowError => "OverflowError"
  | .osError => "OSError"
  | .zeroDivisionError => "ZeroDivisionError"
  | .canonicalizationError => "CanonicalizationError"
  | .uttNotFound => "UttNotFoundError"
  | .idempotencyConflict => "IdempotencyConflictError"
  | .quoteAlreadyAccepted => "QuoteAlreadyAcceptedError"
  | .noEligibleRoute => "NoEligibleRouteError"
  | .planNotExecutable => "PlanNotExecutableError"
  | .executionPlanNotFound => "ExecutionPlanNotFoundError"
  | .rttNotFound => "RttNotFoundError"
  | .concurrentPlanUpdate => "ConcurrentPlanUpdateError"
  | .executionPlanConflict => "ExecutionPlanConflictError"
  | .submissionNotFound => "SubmissionNotFoundError"
  | .concurrentSubmissionUpdate => "ConcurrentSubmissionUpdateError"
  | .submissionNotDispatchable => "SubmissionNotDispatchableError"
  | .projectionEventConflict => "ProjectionEventConflictError"
  | .callbackPayloadConflict => "CallbackPayloadConflictError"
  | .settlementConflict => "SettlementConflictError"
  | .transactionProjectionNotFound => "TransactionProjectionNotFoundError"
  | .transactionAccessDenied => "TransactionAccessDeniedError"
  | .accessToken => "AccessTokenError"
  | .envelopeIntegrity => "EnvelopeIntegrityError"
  | .external => e.message

/-- `if not p: raise e`. -/
def require (p : Prop) [Decidable p] (e : Exn) : Except Exn Unit :=
  if p then .ok () else .error e

@[simp] theorem require_eq_ok {p : Prop} [Decidable p] {e : Exn} {u : Unit} :
    require p e = .ok u ↔ p := by
  unfold require
  split <;> simp_all

theorem require_eq_error {p : Prop} [Decidable p] {e e' : Exn} :
    require p e = .error e' ↔ ¬ p ∧ e = e' := by
  unfold require
  split <;> simp_all

/-- A sequence of fallible computations succeeds when both parts do. -/
theorem bind_eq_ok {α β : Type} {x : Except Exn α} {f : α → Except Exn β} {b : β} :
    (x >>= f) = .ok b ↔ ∃ a, x = .ok a ∧ f a = .ok b := by
  cases x <;> simp [bind, Except.bind]

/-- A sequence of fallible computations fails when one of its parts does. -/
theorem bind_eq_error {α β : Type} {x : Except Exn α} {f : α → Except Exn β} {e : Exn} :
    (x >>= f) = .error e ↔ x = .error e ∨ ∃ a, x = .ok a ∧ f a = .error e := by
  cases x <;> simp [bind, Except.bind]

@[simp] theorem pure_eq_ok {α : Type} {a b : α} :
    (pure a : Except Exn α) = .ok b ↔ a = b := by
  simp [pure, Except.pure]

theorem exists_of_isOk {α : Type} {x : Except Exn α} (h : x.isOk = true) : ∃ a, x = .ok a := by
  cases x with
  | error e => cases h
  | ok a => exact ⟨a, rfl⟩

theorem exists_error_iff {α : Type} {x : Except Exn α} : (∃ e, x = .error e) ↔ ¬ ∃ a, x = .ok a := by
  cases x <;> simp

/-- A sequence of fallible computations on a list succeeds when all of them do. -/
theorem mapM_eq_ok {α β : Type} {f : α → Except Exn β} {l : List α} {l' : List β} :
    l.mapM f = .ok l' ↔ List.Forall₂ (fun a b => f a = .ok b) l l' := by
  induction l generalizing l' with
  | nil =>
    rw [List.mapM_nil, pure_eq_ok, List.forall₂_nil_left_iff, eq_comm]
  | cons a l ih =>
    rw [List.mapM_cons]
    simp only [bind_eq_ok, pure_eq_ok, ih]
    constructor
    · rintro ⟨b, hb, rest, hrest, rfl⟩
      exact .cons hb hrest
    · rintro (_ | ⟨hb, hrest⟩)
      exact ⟨_, hb, _, hrest, rfl⟩
theorem exists_mapM_eq_ok {α β : Type} {f : α → Except Exn β} {l : List α}
    (h : ∀ a ∈ l, ∃ b, f a = .ok b) : ∃ l', l.mapM f = .ok l' := by
  induction l with
  | nil => exact ⟨[], rfl⟩
  | cons a l ih =>
    obtain ⟨b, hb⟩ := h a List.mem_cons_self
    obtain ⟨l', hl'⟩ := ih fun a' ha' => h a' (List.mem_cons_of_mem _ ha')
    exact ⟨b :: l', mapM_eq_ok.mpr (.cons hb (mapM_eq_ok.mp hl'))⟩

theorem mem_of_forall₂ {α β : Type} {R : α → β → Prop} {l : List α} {l' : List β}
    (h : List.Forall₂ R l l') {a : α} (ha : a ∈ l) : ∃ b ∈ l', R a b := by
  induction h with
  | nil => cases ha
  | cons hab _ ih =>
    rcases List.mem_cons.mp ha with rfl | ha
    · exact ⟨_, List.mem_cons_self, hab⟩
    · obtain ⟨b, hb, hr⟩ := ih ha
      exact ⟨b, List.mem_cons_of_mem _ hb, hr⟩

/-! ## Trimmed text -/

/-- The characters that `str.strip` removes. -/
def isSpace (c : Char) : Bool :=
  (0x09 ≤ c.toNat && c.toNat ≤ 0x0d) || (0x1c ≤ c.toNat && c.toNat ≤ 0x20) ||
    c.toNat == 0x85 || c.toNat == 0xa0 || c.toNat == 0x1680 ||
    (0x2000 ≤ c.toNat && c.toNat ≤ 0x200a) || c.toNat == 0x2028 || c.toNat == 0x2029 ||
    c.toNat == 0x202f || c.toNat == 0x205f || c.toNat == 0x3000

/-- `str.strip`. -/
def strip (s : String) : String :=
  String.ofList ((s.toList.dropWhile isSpace).rdropWhile isSpace)

@[simp] theorem toList_strip (s : String) :
    (strip s).toList = (s.toList.dropWhile isSpace).rdropWhile isSpace := by
  simp [strip]

/-- Removing trailing characters leaves the front alone: what starts with a kept character still
starts with it. -/
private theorem dropWhile_rdropWhile {p : Char → Bool} {l : List Char}
    (h : l.dropWhile p = l) : (l.rdropWhile p).dropWhile p = l.rdropWhile p := by
  cases hl : l.rdropWhile p with
  | nil => rfl
  | cons c t =>
    have hpre : l.rdropWhile p <+: l := List.rdropWhile_prefix p l
    rw [hl] at hpre
    obtain ⟨t', rfl⟩ := hpre
    have hc : p c = false := by
      by_contra hc
      rw [Bool.not_eq_false] at hc
      rw [List.cons_append, List.dropWhile_cons_of_pos hc] at h
      have := congrArg List.length h
      have hle := List.length_dropWhile_le p (t ++ t')
      simp only [List.length_cons] at this
      omega
    rw [List.dropWhile_cons_of_neg (by simp [hc])]

/-- Trimming twice is trimming once. -/
@[simp] theorem strip_strip (s : String) : strip (strip s) = strip s := by
  apply String.toList_inj.mp
  rw [toList_strip, toList_strip, dropWhile_rdropWhile (List.dropWhile_idempotent _ _),
    List.rdropWhile_idempotent]

theorem toList_strip_sublist (s : String) : (strip s).toList.Sublist s.toList := by
  rw [toList_strip]
  exact (List.rdropWhile_prefix _ _).sublist.trans (List.dropWhile_sublist _)

/-- Text without white space is unchanged by trimming. -/
theorem strip_eq_self {s : String} (h : ∀ c ∈ s.toList, isSpace c = false) : strip s = s := by
  apply String.toList_inj.mp
  rw [toList_strip]
  have h₁ : s.toList.dropWhile isSpace = s.toList := by
    cases hs : s.toList with
    | nil => rfl
    | cons c t => rw [List.dropWhile_cons_of_neg (by simp [h c (by simp [hs])])]
  rw [h₁, List.rdropWhile_eq_self_iff]
  intro hne
  simp [h _ (List.getLast_mem hne)]

/-- Blank text is white space throughout. -/
theorem strip_eq_empty {s : String} : strip s = "" ↔ ∀ c ∈ s.toList, isSpace c = true := by
  rw [← String.toList_inj, toList_strip, String.toList_empty, List.rdropWhile_eq_nil_iff]
  constructor
  · intro h c hc
    by_contra hspace
    -- the first character that is kept survives on the left and is no white space
    have hne : s.toList.dropWhile isSpace ≠ [] := by
      rw [ne_eq, List.dropWhile_eq_nil_iff]
      exact fun hall => hspace (hall c hc)
    have hhead := List.head_dropWhile_not isSpace hne
    rw [h _ (List.head_mem hne)] at hhead
    cases hhead
  · intro h c hc
    exact h c ((List.dropWhile_sublist _).mem hc)

/-- `text.startswith(head)`. -/
def startsWith (text head : String) : Bool := head.toList.isPrefixOf text.toList

/-- `require_text`: the trimmed text, which must not be empty. -/
def requireText (name value : String) : Except Exn String :=
  if strip value = "" then .error ⟨.valueError, name ++ " is required"⟩ else .ok (strip value)

/-- What `require_text` accepts and returns. -/
theorem requireText_eq_ok {name value t : String} :
    requireText name value = .ok t ↔ t = strip value ∧ strip value ≠ "" := by
  unfold requireText
  by_cases h : strip value = ""
  · simp [h]
  · rw [if_neg h, Except.ok.injEq]
    exact ⟨fun ht => ⟨ht.symm, h⟩, fun ht => ht.1.symm⟩

/-- `require_minor_units`.  Values are integers here, so only the sign is checked. -/
def requireMinorUnits (name : String) (value : Int) (allowZero : Bool) : Except Exn Int :=
  if value < (if allowZero then 0 else 1) then
    .error ⟨.valueError, name ++ " must be " ++ (if allowZero then "non-negative" else "positive")⟩
  else .ok value

theorem requireMinorUnits_eq_ok {name : String} {value n : Int} {allowZero : Bool} :
    requireMinorUnits name value allowZero = .ok n ↔
      n = value ∧ (if allowZero then 0 else 1) ≤ value := by
  unfold requireMinorUnits
  by_cases h : value < (if allowZero then 0 else 1)
  · rw [if_pos h]
    simp only [reduceCtorEq, false_iff, not_and]
    exact fun _ hle => absurd h (Int.not_lt.mpr hle)
  · rw [if_neg h, Except.ok.injEq]
    exact ⟨fun hn => ⟨hn.symm, Int.not_lt.mp h⟩, fun hn => hn.1.symm⟩

/-! ## Instants -/

/-- Microseconds from the epoch, in UTC. -/
abbrev Instant := Int

/-- A `datetime` as callers pass it: aware of its offset, hence an instant, or naive. -/
inductive Datetime
  | aware (t : Instant)
  | naive
  deriving DecidableEq, Repr

/-- `require_aware`, and the same check where it is written out. -/
def requireAware (name : String) : Datetime → Except Exn Instant
  | .aware t => .ok t
  | .naive => .error ⟨.valueError, name ++ " must be timezone-aware"⟩

/-- `timedelta(seconds=n)`. -/
def seconds (n : Int) : Int := n * 1000000

/-- The quotient rounded to the nearest integer, ties to the even one. -/
def roundHalfEven (n d : ℕ) : ℕ :=
  if 2 * (n % d) < d ∨ (2 * (n % d) = d ∧ n / d % 2 = 0) then n / d else n / d + 1

/-- `int(t.timestamp())`: the seconds from the epoch, rounded to a double with its 53 significant bits
and then truncated towards zero.  Some six centuries from the epoch on, the last microseconds of a
second are rounded up to the next one. -/
def epochSeconds (t : Instant) : Int :=
  let bits := 52 - Nat.log2 (t.natAbs / 1000000)
  t.sign * (roundHalfEven (t.natAbs * 2 ^ bits) 1000000 / 2 ^ bits : ℕ)

/-- Whole seconds are read exactly. -/
@[simp] theorem epochSeconds_seconds (n : Int) : epochSeconds (seconds n) = n := by
  have habs : (seconds n).natAbs = n.natAbs * 1000000 := by
    rw [seconds, Int.natAbs_mul]
    rfl
  have hsign : (seconds n).sign = n.sign := by
    have hmillion : Int.sign 1000000 = 1 := rfl
    rw [seconds, Int.sign_mul, hmillion, Int.mul_one]
  have hround : ∀ b : ℕ, roundHalfEven (n.natAbs * 1000000 * 2 ^ b) 1000000 / 2 ^ b = n.natAbs := by
    intro b
    have hexact : n.natAbs * 1000000 * 2 ^ b = n.natAbs * 2 ^ b * 1000000 :=
      Nat.mul_right_comm _ _ _
    rw [roundHalfEven, hexact, Nat.mul_mod_left, Nat.mul_div_cancel _ (by decide), if_pos (by simp),
      Nat.mul_div_cancel _ (Nat.two_pow_pos b)]
  unfold epochSeconds
  simp only [habs, hsign, hround]
  exact Int.sign_mul_natAbs n

/-- `datetime.fromtimestamp(n, tz=timezone.utc)`: a year between 1 and 9999, or an exception whose
class depends on how far the value is out of range. -/
def fromTimestamp (n : Int) : Except Exn Instant :=
  if n < -2 ^ 63 ∨ 2 ^ 63 ≤ n then
    .error ⟨.overflowError, "timestamp out of range for platform time_t"⟩
  else if n < -67768040609740800 ∨ 67768036191676799 < n then
    .error ⟨.osError, "Value too large for defined data type"⟩
  else if n < -62135596800 ∨ 253402300799 < n then
    .error ⟨.valueError, "year is out of range"⟩
  else .ok (seconds n)

end RailOne
