import RailOneCore.Library.Machine

/-!
# Write-once maps

A map in which the first value written under a key stays.  Calls may write or not: `writing` is the key
and the value of a call that writes.  After a run from the empty map, a key has the value of the first
call that wrote under it.
-/

namespace WriteOnce

variable {K V C : Type} [DecidableEq K]

/-- The map after a writing. -/
def write (m : K → Option V) (k : K) (v : V) : K → Option V :=
  fun k' => if k' = k then some ((m k).getD v) else m k'

@[simp] theorem write_of_ne {m : K → Option V} {k k' : K} {v : V} (h : k' ≠ k) :
    write m k v k' = m k' := if_neg h

theorem write_self {m : K → Option V} {k : K} {v : V} (h : m k = none) : write m k v k = some v := by
  rw [write, if_pos rfl, h]
  rfl

/-- A key that has a value keeps it, and so does the whole map. -/
theorem write_eq_self {m : K → Option V} {k : K} {v old : V} (h : m k = some old) : write m k v = m := by
  funext k'
  unfold write
  split_ifs with heq
  · rw [heq, h]
    rfl
  · rfl

/-- The map after a call. -/
def next (writing : C → Option (K × V)) (m : K → Option V) (c : C) : K → Option V :=
  match writing c with
  | some (k, v) => write m k v
  | none => m

/-- The value that a call writes under a key. -/
def written (writing : C → Option (K × V)) (k : K) (c : C) : Option V :=
  (writing c).bind fun w => if w.1 = k then some w.2 else none

/-- The first value that some calls write under a key. -/
def first (writing : C → Option (K × V)) (cs : List C) (k : K) : Option V :=
  cs.findSome? (written writing k)

/-- One call leaves a key alone, or writes under it if it had no value. -/
theorem next_eq_or (writing : C → Option (K × V)) (m : K → Option V) (c : C) (k : K) :
    next writing m c k = (m k).or (written writing k c) := by
  unfold next written
  cases hw : writing c with
  | none => simp
  | some w =>
    obtain ⟨k', v⟩ := w
    by_cases hk : k' = k
    · subst hk
      cases hm : m k' <;> simp [write, hm]
    · simp [write, hk, Ne.symm hk]

/-- After a run, a key has the value that it had before, or else the first that the run wrote. -/
theorem after_eq_or (writing : C → Option (K × V)) (m : K → Option V) (cs : List C) (k : K) :
    Machine.after (next writing) m cs k = (m k).or (first writing cs k) := by
  induction cs generalizing m with
  | nil => simp [first]
  | cons c cs ih =>
    have hfirst : first writing (c :: cs) k = (written writing k c).or (first writing cs k) := by
      rw [first, List.findSome?_cons]
      cases written writing k c <;> rfl
    rw [Machine.after_cons, ih, next_eq_or, hfirst, Option.or_assoc]

/-- After a run from the empty map, a key has the first value that the run wrote under it. -/
theorem after_empty (writing : C → Option (K × V)) (cs : List C) :
    Machine.after (next writing) (fun _ => none) cs = first writing cs := by
  funext k
  rw [after_eq_or, Option.none_or]

end WriteOnce
