import RailOneCore.Api.RateLimits
import RailOneCore.Postgres.Execution

/-!
# Rate limits on PostgreSQL

`PostgresRateLimitStore` counts in the table `railone.api_rate_limit_windows` with one upsert.  Its
window length changes only when a window is opened, while the store in memory takes the length of the
latest call.  The two agree as long as no call carries another length into an open window.

The column `updated_at` is written and never read; the rows leave it out.
-/

namespace RailOne

open Ordered

/-- The rows of `railone.api_rate_limit_windows`. -/
abbrev PostgresRateLimits := Dict String RateWindow

/-- Column types and `CHECK` constraints. -/
def RateWindow.fits (scopeKey : String) (row : RateWindow) : Bool :=
  Column.text scopeKey && Column.integer row.windowSeconds && Column.bigint row.count &&
    1 ≤ row.windowSeconds && row.windowSeconds ≤ 3600 && 1 ≤ row.count

namespace PostgresRateLimits

/-- A statement that the database refuses. -/
def databaseError (message : String) : Exn := ⟨.external, message⟩

/-- The columns that `ON CONFLICT (scope_key) DO UPDATE` sets. -/
def updated (row excluded : RateWindow) : RateWindow where
  startedAt := if row.endsAt ≤ excluded.startedAt then excluded.startedAt else row.startedAt
  windowSeconds := if row.endsAt ≤ excluded.startedAt then excluded.windowSeconds else row.windowSeconds
  count := if row.endsAt ≤ excluded.startedAt then 1 else row.count + 1

/-- The trigger `guard_api_rate_limit_update`.  The key of a row is never updated. -/
def guardUpdate (old new : RateWindow) : Except Exn Unit := do
  require (new.startedAt = old.startedAt → new.count = old.count + 1)
    (databaseError "active rate-limit count must advance exactly once")
  require (old.startedAt < new.startedAt → new.count = 1)
    (databaseError "new rate-limit window must start at one")
  require (old.startedAt ≤ new.startedAt) (databaseError "rate-limit window cannot move backwards")

/-- The row that the upsert writes and returns. -/
def upsert (scopeKey : String) (current : Option RateWindow) (excluded : RateWindow) :
    Except Exn RateWindow := do
  let row := (current.map fun row => updated row excluded).getD excluded
  match current with
  | none => pure ()
  | some old => guardUpdate old row
  require (row.fits scopeKey) (databaseError "DataError")
  return row

/-- `consume`: the decision, and the rows after the transaction.  An exception rolls it back. -/
def consume (rows : PostgresRateLimits) (scopeKey : String) (limit windowSeconds : Int)
    (at_ : Instant) : Except Exn RateLimitDecision × PostgresRateLimits :=
  let transaction : Except Exn (RateWindow × RateLimitDecision) := do
    ratePolicy limit windowSeconds
    require (strip scopeKey ≠ "") ⟨.valueError, "rate-limit scope key is required"⟩
    let row ← upsert scopeKey (rows.get? scopeKey) ⟨at_, 1, windowSeconds⟩
    return (row, ← row.decision limit)
  match transaction with
  | .error exn => (.error exn, rows)
  | .ok (row, decision) => (.ok decision, rows.set scopeKey row)

/-- The rows after a call. -/
def step (rows : PostgresRateLimits) (call : RateCall) : PostgresRateLimits :=
  (rows.consume call.scopeKey call.limit call.windowSeconds call.at_).2

/-- The decision about a call. -/
def decide (rows : PostgresRateLimits) (call : RateCall) : Except Exn RateLimitDecision :=
  (rows.consume call.scopeKey call.limit call.windowSeconds call.at_).1

end PostgresRateLimits

/-! ## Agreement -/

/-- The latest instant. -/
def lastInstant : Instant := 253402300799999999

/-- Both stores count the call alike: its key is one that the table holds, and inside an open window it
carries the length of that window, whose count has room for it. -/
structure Compatible (windows : RateLimits) (call : RateCall) : Prop where
  key : strip call.scopeKey ≠ "" ∧ Column.text call.scopeKey = true
  window : ∀ w, windows.get? call.scopeKey = some w → call.at_ < w.endsAt →
    call.windowSeconds = w.windowSeconds ∧ w.count + 1 < 2 ^ 63

/-- What the stores hold for a key at some instant: the same window, or in memory a window that ends after
the last instant.  Opening that one raised, so the transaction of the database was rolled back. -/
inductive Agree (now : Instant) : Option RateWindow → Option RateWindow → Prop
  | none : Agree now none none
  | same {w : RateWindow} (hstart : InYears w.startedAt)
      (hlength : 1 ≤ w.windowSeconds ∧ w.windowSeconds ≤ 3600) (hcount : 1 ≤ w.count) :
      Agree now (some w) (some w)
  | endless {w : RateWindow} {row : Option RateWindow} (hstart : w.startedAt ≤ now)
      (hend : lastInstant < w.endsAt) (hclosed : ∀ old ∈ row, old.endsAt ≤ w.startedAt ∧
        old.startedAt < w.startedAt) : Agree now (some w) row

namespace Agree

variable {now : Instant} {current row : Option RateWindow}

theorem mono {later : Instant} (h : Agree now current row) (hle : now ≤ later) :
    Agree later current row := by
  cases h with
  | none => exact .none
  | same hstart hlength hcount => exact .same hstart hlength hcount
  | endless hstart hend hclosed => exact .endless (hstart.trans hle) hend hclosed

end Agree

theorem addDuration_of_lt {t d : Int} (h : lastInstant < t + d) :
    addDuration t d = .error ⟨.overflowError, "date value out of range"⟩ :=
  if_neg fun hyears => absurd hyears.2 (Int.not_le.mpr h)

theorem RateWindow.decision_of_lt {w : RateWindow} {limit : Int} (h : lastInstant < w.endsAt) :
    w.decision limit = .error ⟨.overflowError, "date value out of range"⟩ := by
  rw [decision, addDuration_of_lt h]
  rfl

/-- A window that starts at an instant ends at one, or after the last. -/
theorem RateWindow.inYears_or_lt {w : RateWindow} (hstart : InYears w.startedAt)
    (hlength : 1 ≤ w.windowSeconds) : InYears w.endsAt ∨ lastInstant < w.endsAt := by
  rcases Int.lt_or_le lastInstant w.endsAt with hlt | hle
  · exact .inr hlt
  · refine .inl ⟨hstart.1.trans ?_, hle⟩
    exact Int.le_add_of_nonneg_right (Int.mul_nonneg (Int.le_trans (by decide) hlength) (by decide))

namespace PostgresRateLimits

/-- A window that is opened. -/
theorem upsert_opened {scopeKey : String} (htext : Column.text scopeKey = true)
    {current : Option RateWindow} {windowSeconds : Int}
    (hlength : 1 ≤ windowSeconds ∧ windowSeconds ≤ 3600) {at_ : Instant}
    (hclosed : ∀ old ∈ current, old.endsAt ≤ at_ ∧ old.startedAt < at_) :
    upsert scopeKey current ⟨at_, 1, windowSeconds⟩ = .ok ⟨at_, 1, windowSeconds⟩ := by
  have hfits : RateWindow.fits scopeKey ⟨at_, 1, windowSeconds⟩ = true := by
    simp [RateWindow.fits, htext, Column.integer, Column.bigint, hlength]
    omega
  cases current with
  | none => simp [upsert, require, hfits, bind, Except.bind, pure, Except.pure]
  | some old =>
    obtain ⟨hend, hstart⟩ := hclosed old rfl
    have hrow : updated old ⟨at_, 1, windowSeconds⟩ = ⟨at_, 1, windowSeconds⟩ := by
      simp [updated, hend]
    have hguard : guardUpdate old ⟨at_, 1, windowSeconds⟩ = .ok () := by
      simp only [guardUpdate, bind_eq_ok, require_eq_ok]
      exact ⟨(), fun heq => absurd heq (Int.ne_of_gt hstart), (), fun _ => trivial, hstart.le⟩
    simp [upsert, hrow, hguard, require, hfits, bind, Except.bind, pure, Except.pure]

/-- A window that goes on. -/
theorem upsert_continued {scopeKey : String} (htext : Column.text scopeKey = true) {old : RateWindow}
    {windowSeconds : Int} {at_ : Instant} (hlength : 1 ≤ old.windowSeconds ∧ old.windowSeconds ≤ 3600)
    (hcount : 1 ≤ old.count) (hroom : old.count + 1 < 2 ^ 63) (hopen : at_ < old.endsAt) :
    upsert scopeKey (some old) ⟨at_, 1, windowSeconds⟩ = .ok { old with count := old.count + 1 } := by
  have hrow : updated old ⟨at_, 1, windowSeconds⟩ = { old with count := old.count + 1 } := by
    simp [updated, Int.not_le.mpr hopen]
  have hguard : guardUpdate old { old with count := old.count + 1 } = .ok () := by
    simp [guardUpdate, bind_eq_ok]
  have hfits : RateWindow.fits scopeKey { old with count := old.count + 1 } = true := by
    simp [RateWindow.fits, htext, Column.integer, Column.bigint, hlength]
    omega
  simp [upsert, hrow, hguard, require, hfits, bind, Except.bind, pure, Except.pure]

/-- The transaction of a call on a key that the table holds. -/
theorem consume_eq {rows : PostgresRateLimits} {scopeKey : String} (p : RatePolicy) {at_ : Instant}
    (hkey : strip scopeKey ≠ "") {row : RateWindow}
    (hrow : upsert scopeKey (rows.get? scopeKey) ⟨at_, 1, p.windowSeconds⟩ = .ok row) :
    rows.consume scopeKey p.limit p.windowSeconds at_ =
      match row.decision p.limit with
      | .error exn => (.error exn, rows)
      | .ok decision => (.ok decision, rows.set scopeKey row) := by
  unfold consume
  rw [p.accepted, require, if_pos hkey, hrow]
  cases hdecision : row.decision p.limit <;>
    simp [hdecision, bind, Except.bind, pure, Except.pure]

end PostgresRateLimits

section Step

variable {now : Instant} {windows : RateLimits} {rows : PostgresRateLimits} {call : RateCall}

/-- What one call does to stores that agree about its key: the decisions are the same, and the stores
agree again. -/
def Agreeing (windows : RateLimits) (rows : PostgresRateLimits) (call : RateCall) : Prop :=
  windows.decide call = rows.decide call ∧
    Agree call.at_ ((windows.step call).get? call.scopeKey) ((rows.step call).get? call.scopeKey)

/-- A call that opens a window in both stores. -/
theorem agreeing_opened (hkey : strip call.scopeKey ≠ "" ∧ Column.text call.scopeKey = true)
    (hnext : RateLimits.nextWindow (windows.get? call.scopeKey) call.windowSeconds call.at_ =
      .ok ⟨call.at_, 1, call.windowSeconds⟩)
    (hclosed : ∀ old ∈ rows.get? call.scopeKey, old.endsAt ≤ call.at_ ∧ old.startedAt < call.at_) :
    Agreeing windows rows call := by
  have hrow := PostgresRateLimits.upsert_opened hkey.2 call.window_bounds hclosed
  unfold Agreeing RateLimits.decide RateLimits.step PostgresRateLimits.decide PostgresRateLimits.step
  rw [RateLimits.consume_eq call.toRatePolicy, hnext,
    PostgresRateLimits.consume_eq call.toRatePolicy hkey.1 hrow]
  dsimp only
  rw [Dict.get?_set_self]
  rcases RateWindow.inYears_or_lt (w := ⟨call.at_, 1, call.windowSeconds⟩) call.inYears
    call.window_bounds.1 with hyears | hlt
  · have hdecision : RateWindow.decision ⟨call.at_, 1, call.windowSeconds⟩ call.limit = .ok
        ⟨1 ≤ call.limit, call.limit, max 0 (call.limit - 1), call.at_ + seconds call.windowSeconds⟩ := by
      rw [RateWindow.decision, addDuration_of_inYears hyears]
      rfl
    rw [hdecision]
    dsimp only
    rw [Dict.get?_set_self]
    exact ⟨rfl, .same call.inYears call.window_bounds (Int.le_refl 1)⟩
  · rw [RateWindow.decision_of_lt hlt]
    exact ⟨rfl, .endless (Int.le_refl _) hlt hclosed⟩

/-- A call on a window that both stores hold. -/
theorem agreeing_same {w : RateWindow} (hwindow : windows.get? call.scopeKey = some w)
    (hrow : rows.get? call.scopeKey = some w) (hstart : InYears w.startedAt)
    (hlength : 1 ≤ w.windowSeconds ∧ w.windowSeconds ≤ 3600) (hcount : 1 ≤ w.count)
    (hcompatible : Compatible windows call) : Agreeing windows rows call := by
  have hpositive : w.startedAt < w.endsAt :=
    Int.lt_add_of_pos_right _ (Int.mul_pos (Int.lt_of_lt_of_le (by decide) hlength.1) (by decide))
  rcases (Int.lt_or_le call.at_ w.endsAt).symm with hclosed | hopen
  · refine agreeing_opened hcompatible.key ?_ ?_
    · have hyears : InYears w.endsAt := ⟨hstart.1.trans hpositive.le, hclosed.trans call.inYears.2⟩
      rw [hwindow, RateLimits.nextWindow, addDuration_of_inYears hyears]
      exact congrArg Except.ok (if_pos hclosed)
    · intro old hold
      rw [hrow] at hold
      cases hold
      exact ⟨hclosed, hpositive.trans_le hclosed⟩
  · obtain ⟨hseconds, hroom⟩ := hcompatible.window w hwindow hopen
    have hupsert : PostgresRateLimits.upsert call.scopeKey (rows.get? call.scopeKey)
        ⟨call.at_, 1, call.windowSeconds⟩ = .ok { w with count := w.count + 1 } := by
      rw [hrow]
      exact PostgresRateLimits.upsert_continued hcompatible.key.2 hlength hcount hroom hopen
    unfold Agreeing RateLimits.decide RateLimits.step PostgresRateLimits.decide PostgresRateLimits.step
    rw [RateLimits.consume_eq call.toRatePolicy, hwindow,
      PostgresRateLimits.consume_eq call.toRatePolicy hcompatible.key.1 hupsert]
    rcases RateWindow.inYears_or_lt hstart hlength.1 with hyears | hlt
    · have hnext : RateLimits.nextWindow (some w) call.windowSeconds call.at_ =
          .ok { w with count := w.count + 1 } := by
        rw [RateLimits.nextWindow, addDuration_of_inYears hyears, hseconds]
        exact congrArg Except.ok (if_neg (Int.not_le.mpr hopen))
      have hdecision : RateWindow.decision { w with count := w.count + 1 } call.limit = .ok
          ⟨w.count + 1 ≤ call.limit, call.limit, max 0 (call.limit - (w.count + 1)), w.endsAt⟩ := by
        rw [RateWindow.decision, addDuration_of_inYears hyears]
        rfl
      rw [hnext]
      dsimp only
      rw [hdecision]
      dsimp only
      rw [Dict.get?_set_self, Dict.get?_set_self]
      exact ⟨rfl, .same hstart hlength (hcount.trans (Int.le_add_one (Int.le_refl _)))⟩
    · -- the window that goes on ends after the last instant: both stores refuse and keep it
      have hdecision : RateWindow.decision { w with count := w.count + 1 } call.limit =
          .error ⟨.overflowError, "date value out of range"⟩ := RateWindow.decision_of_lt hlt
      have hnext : RateLimits.nextWindow (some w) call.windowSeconds call.at_ =
          .error ⟨.overflowError, "date value out of range"⟩ := by
        rw [RateLimits.nextWindow, addDuration_of_lt hlt]
        rfl
      rw [hnext, hdecision]
      dsimp only
      rw [hwindow, hrow]
      exact ⟨rfl, .same hstart hlength hcount⟩

/-- A call on a window in memory that ends after the last instant. -/
theorem agreeing_endless {w : RateWindow} (hwindow : windows.get? call.scopeKey = some w)
    (hstart : w.startedAt ≤ call.at_) (hend : lastInstant < w.endsAt)
    (hclosed : ∀ old ∈ rows.get? call.scopeKey, old.endsAt ≤ w.startedAt ∧ old.startedAt < w.startedAt)
    (hcompatible : Compatible windows call) : Agreeing windows rows call := by
  have hopen : call.at_ < w.endsAt := call.inYears.2.trans_lt hend
  have hseconds := (hcompatible.window w hwindow hopen).1
  have hnext : RateLimits.nextWindow (some w) call.windowSeconds call.at_ =
      .error ⟨.overflowError, "date value out of range"⟩ := by
    rw [RateLimits.nextWindow, addDuration_of_lt hend]
    rfl
  have hupsert : PostgresRateLimits.upsert call.scopeKey (rows.get? call.scopeKey)
      ⟨call.at_, 1, call.windowSeconds⟩ = .ok ⟨call.at_, 1, call.windowSeconds⟩ :=
    PostgresRateLimits.upsert_opened hcompatible.key.2 call.window_bounds fun old hold =>
      ⟨(hclosed old hold).1.trans hstart, (hclosed old hold).2.trans_le hstart⟩
  have hlt : lastInstant < RateWindow.endsAt ⟨call.at_, 1, call.windowSeconds⟩ := by
    have hle : w.endsAt ≤ RateWindow.endsAt ⟨call.at_, 1, call.windowSeconds⟩ := by
      rw [RateWindow.endsAt, RateWindow.endsAt, hseconds]
      exact Int.add_le_add_right hstart _
    exact hend.trans_le hle
  unfold Agreeing RateLimits.decide RateLimits.step PostgresRateLimits.decide PostgresRateLimits.step
  rw [RateLimits.consume_eq call.toRatePolicy, hwindow, hnext,
    PostgresRateLimits.consume_eq call.toRatePolicy hcompatible.key.1 hupsert,
    RateWindow.decision_of_lt hlt]
  dsimp only
  rw [hwindow]
  exact ⟨rfl, .endless hstart hend hclosed⟩

/-- One call on stores that agree about its key. -/
theorem agreeing (hagree : Agree now (windows.get? call.scopeKey) (rows.get? call.scopeKey))
    (hnow : now ≤ call.at_) (hcompatible : Compatible windows call) :
    Agreeing windows rows call := by
  generalize hwindow : windows.get? call.scopeKey = current at hagree
  generalize hrow : rows.get? call.scopeKey = row at hagree
  cases hagree with
  | none =>
    refine agreeing_opened hcompatible.key ?_ ?_
    · rw [hwindow]
      rfl
    · intro old hold
      rw [hrow] at hold
      cases hold
  | same hstart hlength hcount => exact agreeing_same hwindow hrow hstart hlength hcount hcompatible
  | endless hstart hend hclosed =>
    exact agreeing_endless hwindow (hstart.trans hnow) hend (hrow ▸ hclosed) hcompatible

theorem get?_step_of_ne {key : String} (h : key ≠ call.scopeKey) :
    (rows.step call).get? key = rows.get? key := by
  unfold PostgresRateLimits.step PostgresRateLimits.consume
  dsimp only
  split
  · rfl
  · exact Dict.get?_set_of_ne _ _ h

end Step

open Machine

/-- What relates the two stores before some calls: they agree about every key, at an instant that is no
later than the calls. -/
structure Related (windows : RateLimits) (rows : PostgresRateLimits) (calls : List RateCall) : Prop where
  agree : ∃ now, (∀ key, Agree now (windows.get? key) (rows.get? key)) ∧ ∀ call ∈ calls, now ≤ call.at_
  times : calls.Pairwise fun c d => c.at_ ≤ d.at_
  compatible : Throughout RateLimits.step Compatible windows calls

/-- One step of the simulation. -/
theorem Related.next {windows : RateLimits} {rows : PostgresRateLimits} {call : RateCall}
    {calls : List RateCall} (h : Related windows rows (call :: calls)) :
    windows.decide call = rows.decide call ∧ Related (windows.step call) (rows.step call) calls := by
  obtain ⟨⟨now, hagree, hnow⟩, htimes, hcompatible, hrest⟩ := h
  have hcall := hnow call List.mem_cons_self
  obtain ⟨hdecide, hown⟩ := agreeing (hagree call.scopeKey) hcall hcompatible
  rw [List.pairwise_cons] at htimes
  refine ⟨hdecide, ⟨call.at_, fun key => ?_, htimes.1⟩, htimes.2, hrest⟩
  by_cases hkey : key = call.scopeKey
  · exact hkey ▸ hown
  · rw [RateLimits.step, RateLimits.get?_consume_of_ne hkey, get?_step_of_ne hkey]
    exact (hagree key).mono hcall

/-- The two stores make the same decisions about calls at nondecreasing instants, as long as every call
is on a key that the table holds and no call carries another window length into an open window. -/
theorem decisions_agree {calls : List RateCall} (htimes : calls.Pairwise fun c d => c.at_ ≤ d.at_)
    (hcompatible : Throughout RateLimits.step Compatible .empty calls) :
    along RateLimits.step RateLimits.decide .empty calls =
      along PostgresRateLimits.step PostgresRateLimits.decide .empty calls := by
  refine along_eq Related (fun _ _ _ _ h => h.next) ⟨?_, htimes, hcompatible⟩
  cases calls with
  | nil => exact ⟨0, fun _ => .none, fun _ hcall => absurd hcall List.not_mem_nil⟩
  | cons call calls =>
    refine ⟨call.at_, fun _ => .none, fun later hlater => ?_⟩
    rcases List.mem_cons.mp hlater with rfl | hlater
    · exact Int.le_refl _
    · exact (List.pairwise_cons.mp htimes).1 later hlater

namespace Sample

/-- A call under a policy of five calls in a window. -/
def rateCall (windowSeconds : Int) (h : 1 ≤ windowSeconds ∧ windowSeconds ≤ 3600) (at_ : Instant)
    (hat : InYears at_) : RateCall :=
  ⟨⟨5, windowSeconds, by decide, h⟩, "SVC-1:/v1/payments", at_, hat⟩

theorem sixty_le : (1 : Int) ≤ 60 ∧ (60 : Int) ≤ 3600 := by decide

/-- Three calls under one policy: the second inside the window of the first, the third after it. -/
def steadyCalls : List RateCall :=
  [rateCall 60 sixty_le 0 (by decide +kernel),
    rateCall 60 sixty_le 30000000 (by decide +kernel),
    rateCall 60 sixty_le 90000000 (by decide +kernel)]

/-- The policy changes inside a window. -/
def changedCalls : List RateCall :=
  [rateCall 60 sixty_le 0 (by decide +kernel),
    rateCall 3600 (by decide) 30000000 (by decide +kernel)]

/-- Under one policy the two stores agree about the three calls. -/
theorem decisions_agree_steadyCalls :
    along RateLimits.step RateLimits.decide .empty steadyCalls =
      along PostgresRateLimits.step PostgresRateLimits.decide .empty steadyCalls := by
  refine decisions_agree (by decide +kernel) ?_
  refine ⟨⟨by decide, nofun⟩, ⟨by decide, ?_⟩, ⟨by decide, ?_⟩, trivial⟩
  · intro w hw _
    obtain rfl : ⟨0, 1, 60⟩ = w := Option.some.inj hw
    decide
  · intro w hw hopen
    obtain rfl : ⟨0, 2, 60⟩ = w := Option.some.inj hw
    exact absurd hopen (by decide)

/-- When the policy changes inside a window, the store in memory moves the end of the window and the
database keeps it. -/
theorem decisions_differ_changedCalls :
    ∃ calls : List RateCall, (calls.Pairwise fun c d => c.at_ ≤ d.at_) ∧
      along RateLimits.step RateLimits.decide .empty calls ≠
        along PostgresRateLimits.step PostgresRateLimits.decide .empty calls :=
  ⟨changedCalls, by decide +kernel, by decide +kernel⟩

end Sample

end RailOne
