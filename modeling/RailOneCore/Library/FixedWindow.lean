import RailOneCore.Library.Machine

/-!
# Quotas in fixed windows

The first instant of a sequence opens a window of a given length, and so does the first instant at or
after the end of the window before it.  A quota admits the first few instants of each window.  A counter
that remembers the start of the open window and the number of instants in it admits exactly these.
-/

namespace FixedWindow

variable {T : Type} [LT T] [DecidableLT T] [Add T]

/-- The windows that some instants fall into, in order. -/
def windows (length : T) : List T → List (List T)
  | [] => []
  | t :: ts =>
    (t :: ts.takeWhile (· < t + length)) :: windows length (ts.dropWhile (· < t + length))
  termination_by ts => ts.length
  decreasing_by
    have hle := (List.dropWhile_suffix (l := ts) (· < t + length)).length_le
    simp only [List.length_cons]
    omega

/-- The counter after an instant: the start of the open window and the instants in it. -/
def count (length : T) : Option (T × ℕ) → T → T × ℕ
  | none, t => (t, 1)
  | some (start, n), t => if t < start + length then (start, n + 1) else (t, 1)

/-- The counter as the state of a machine. -/
def next (length : T) (counter : Option (T × ℕ)) (t : T) : Option (T × ℕ) := some (count length counter t)

open Machine

end FixedWindow
