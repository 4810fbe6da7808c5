import RailOneCore.Api.Auth
import RailOneCore.Library.Machine

/-!
# Rate limits

`InMemoryRateLimitStore` counts the calls on a scope key in fixed windows: the first call on a key, and
the first one at or after the end of its window, opens a window.  Each call writes its own window length
over the one of the open window.
-/

namespace RailOne

open Ordered

/-- `RateLimitDecision`. -/
structure RateLimitDecision where
  allowed : Bool
  limit : Int
  remaining : Int
  resetAt : Instant
  deriving DecidableEq, Repr

/-- `_rate_policy`. -/
def ratePolicy (limit windowSeconds : Int) : Except Exn Unit := do
  require (1 ≤ limit ∧ limit ≤ 10000) ⟨.valueError, "rate limit must be between 1 and 10000"⟩
  require (1 ≤ windowSeconds ∧ windowSeconds ≤ 3600)
    ⟨.valueError, "rate-limit window must be between 1 and 3600 seconds"⟩

theorem ratePolicy_eq_ok {limit windowSeconds : Int} :
    ratePolicy limit windowSeconds = .ok () ↔
      (1 ≤ limit ∧ limit ≤ 10000) ∧ 1 ≤ windowSeconds ∧ windowSeconds ≤ 3600 := by
  simp [ratePolicy, bind_eq_ok]

theorem addDuration_of_inYears {t d : Int} (h : InYears (t + d)) : addDuration t d = .ok (t + d) :=
  if_pos h

/-- A window: when it was opened, the calls so far and its length. -/
structure RateWindow where
  startedAt : Instant
  count : Int
  windowSeconds : Int
  deriving DecidableEq, Repr

namespace RateWindow

/-- The first instant after the window. -/
def endsAt (w : RateWindow) : Instant := w.startedAt + seconds w.windowSeconds

/-- What a call is told that has been counted in the window. -/
def decision (w : RateWindow) (limit : Int) : Except Exn RateLimitDecision := do
  let resetAt ← addDuration w.startedAt (seconds w.windowSeconds)
  return { allowed := w.count ≤ limit, limit, remaining := max 0 (limit - w.count), resetAt }

end RateWindow

/-- The windows of `InMemoryRateLimitStore`. -/
abbrev RateLimits := Dict String RateWindow

namespace RateLimits

/-- The window that a call is counted in. -/
def nextWindow (current : Option RateWindow) (windowSeconds : Int) (at_ : Instant) :
    Except Exn RateWindow :=
  match current with
  | none => .ok ⟨at_, 1, windowSeconds⟩
  | some w => do
    let endsAt ← addDuration w.startedAt (seconds w.windowSeconds)
    return if endsAt ≤ at_ then ⟨at_, 1, windowSeconds⟩ else ⟨w.startedAt, w.count + 1, windowSeconds⟩

/-- `consume`: the decision, and the windows after it.  The window is stored before the decision is
made, so it stays when the decision raises. -/
def consume (windows : RateLimits) (scopeKey : String) (limit windowSeconds : Int) (at_ : Instant) :
    Except Exn RateLimitDecision × RateLimits :=
  match ratePolicy limit windowSeconds with
  | .error exn => (.error exn, windows)
  | .ok () =>
    match nextWindow (windows.get? scopeKey) windowSeconds at_ with
    | .error exn => (.error exn, windows)
    | .ok w => (w.decision limit, windows.set scopeKey w)

end RateLimits

/-- A limit and a window length as `_rate_policy` admits them. -/
structure RatePolicy where
  limit : Int
  windowSeconds : Int
  limit_bounds : 1 ≤ limit ∧ limit ≤ 10000
  window_bounds : 1 ≤ windowSeconds ∧ windowSeconds ≤ 3600

/-- The policy of a service is one that its constructor accepts. -/
theorem RatePolicy.accepted (p : RatePolicy) : ratePolicy p.limit p.windowSeconds = .ok () :=
  ratePolicy_eq_ok.mpr ⟨p.limit_bounds, p.window_bounds⟩

/-- A call of `consume` with an admissible policy. -/
structure RateCall extends RatePolicy where
  scopeKey : String
  at_ : Instant
  inYears : InYears at_

namespace RateLimits

/-- The windows after a call. -/
def step (windows : RateLimits) (call : RateCall) : RateLimits :=
  (windows.consume call.scopeKey call.limit call.windowSeconds call.at_).2

/-- The decision about a call. -/
def decide (windows : RateLimits) (call : RateCall) : Except Exn RateLimitDecision :=
  (windows.consume call.scopeKey call.limit call.windowSeconds call.at_).1

theorem consume_eq {windows : RateLimits} {scopeKey : String} (p : RatePolicy) {at_ : Instant} :
    windows.consume scopeKey p.limit p.windowSeconds at_ =
      match nextWindow (windows.get? scopeKey) p.windowSeconds at_ with
      | .error exn => (.error exn, windows)
      | .ok w => (w.decision p.limit, windows.set scopeKey w) := by
  rw [consume, p.accepted]

/-- Calls on other keys leave a window alone. -/
theorem get?_consume_of_ne {windows : RateLimits} {scopeKey key : String} {limit windowSeconds : Int}
    {at_ : Instant} (h : key ≠ scopeKey) :
    (windows.consume scopeKey limit windowSeconds at_).2.get? key = windows.get? key := by
  unfold consume
  split
  · rfl
  · split
    · rfl
    · exact Dict.get?_set_of_ne _ _ h

end RateLimits

end RailOne
