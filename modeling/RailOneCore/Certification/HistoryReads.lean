import RailOneCore.Certification.Evaluator

/-!
# The history reads of a passing trace

The scenario of access control asks for at least two allowed reads, one denied read and three scopes.
The evaluator collects the scopes of allowed and denied reads in one set, so that a passing trace may
serve the unrelated actor and deny the sender.  It does not when no allowed read has the scope of the
unrelated actor: then the denied read must have it, and the other scopes are those of allowed reads.
-/

namespace RailOne

open TraceEventType

namespace CertificationTraceEvaluator

variable {rt : Runtime} {trace : CertificationTrace rt}

/-- The actor scope of an event. -/
def readScope (e : CertificationTraceEvent rt) : Option String := e.metadata.lookup "actor_scope"

/-- Sender and receiver are served, and the unrelated actor is denied and not served. -/
structure AccessGuarded (trace : CertificationTrace rt) : Prop where
  sender : ∃ e ∈ trace.events, e.eventType = historyReadAllowed ∧ readScope e = some "SENDER"
  receiver : ∃ e ∈ trace.events, e.eventType = historyReadAllowed ∧ readScope e = some "RECEIVER"
  denied : ∃ e ∈ trace.events, e.eventType = historyReadDenied
  unrelated : ∀ e ∈ trace.events, e.eventType = historyReadDenied → readScope e = some "UNRELATED"
  served : ∀ e ∈ trace.events, e.eventType = historyReadAllowed → readScope e ≠ some "UNRELATED"

/-- A required scope is the scope of a read, allowed or denied. -/
theorem exists_read_of_scope {scope : String} (h : some scope ∈ scopes trace) :
    ∃ e ∈ trace.events, (e.eventType = historyReadAllowed ∨ e.eventType = historyReadDenied) ∧
      readScope e = some scope := by
  obtain ⟨e, he, hscope⟩ := List.mem_map.mp h
  obtain ⟨hmem, hkind⟩ := List.mem_filter.mp he
  exact ⟨e, hmem, of_decide_eq_true hkind, hscope⟩

/-- Events of a kind that occurs once are one event. -/
theorem eq_of_count_eq_one {kind : TraceEventType} (h : count trace kind = 1)
    {a b : CertificationTraceEvent rt} (ha : a ∈ trace.events) (hb : b ∈ trace.events)
    (hakind : a.eventType = kind) (hbkind : b.eventType = kind) : a = b := by
  rw [count, List.countP_eq_length_filter] at h
  obtain ⟨only, honly⟩ := List.length_eq_one_iff.mp h
  have hfiltered : ∀ e ∈ trace.events, e.eventType = kind → e = only := by
    intro e he hkind
    have hmem : e ∈ trace.events.filter fun e => e.eventType = kind :=
      List.mem_filter.mpr ⟨he, decide_eq_true hkind⟩
    rw [honly] at hmem
    exact List.mem_singleton.mp hmem
  rw [hfiltered a ha hakind, hfiltered b hb hbkind]

/-- A passing trace of access control serves sender and receiver and denies only the unrelated actor
exactly when none of its allowed reads is one of the unrelated actor. -/
theorem access_guarded_iff (hscenario : trace.scenario = .historyAccessControl)
    (hpass : evaluate trace = []) :
    AccessGuarded trace ↔ ∀ e ∈ trace.events, e.eventType = historyReadAllowed →
      readScope e ≠ some "UNRELATED" := by
  constructor
  · intro h
    exact h.served
  · intro hserved
    have hpasses := evaluate_eq_nil_iff.mp hpass
    have hscope : ∀ scope ∈ ["SENDER", "RECEIVER", "UNRELATED"], some scope ∈ scopes trace := by
      have hscopes := hpasses.scopes
      rw [hscenario] at hscopes
      exact hscopes
    have hone : count trace historyReadDenied = 1 := by
      have hexact := hpasses.exact
      rw [hscenario] at hexact
      exact hexact (historyReadDenied, 1) (List.mem_singleton_self _)
    -- the unrelated actor was not served, so that it is the one denied
    obtain ⟨denied, hmem, hkind, hunrelated⟩ := exists_read_of_scope (hscope "UNRELATED" (by simp))
    have hdenied : denied.eventType = historyReadDenied :=
      hkind.resolve_left fun hallowed => hserved denied hmem hallowed hunrelated
    have honly : ∀ e ∈ trace.events, e.eventType = historyReadDenied →
        readScope e = some "UNRELATED" := by
      intro e he hekind
      rw [eq_of_count_eq_one hone he hmem hekind hdenied]
      exact hunrelated
    have hallowed : ∀ scope ∈ ["SENDER", "RECEIVER", "UNRELATED"], scope ≠ "UNRELATED" →
        ∃ e ∈ trace.events, e.eventType = historyReadAllowed ∧ readScope e = some scope := by
      intro scope hin hne
      obtain ⟨e, he, hekind, hescope⟩ := exists_read_of_scope (hscope scope hin)
      refine ⟨e, he, hekind.resolve_right fun hdenied => hne ?_, hescope⟩
      have heq := honly e he hdenied
      rw [hescope] at heq
      exact Option.some.inj heq
    exact ⟨hallowed "SENDER" (by simp) (by decide), hallowed "RECEIVER" (by simp) (by decide),
      ⟨denied, hmem, hdenied⟩, honly, hserved⟩

/-- Reads in which the unrelated actor is denied. -/
def guardedRows : List (TraceEventType × Option Scope) :=
  [(historyReadAllowed, some .sender), (historyReadAllowed, some .receiver),
    (historyReadDenied, some .unrelated)]

/-- Reads in which the sender is denied and the unrelated actor is served. -/
def swappedRows : List (TraceEventType × Option Scope) :=
  [(historyReadAllowed, some .unrelated), (historyReadAllowed, some .receiver),
    (historyReadDenied, some .sender)]

theorem readScope_rowEvent (scenario : CertificationScenario) (i : ℕ)
    (row : TraceEventType × Option Scope) :
    readScope (rowEvent rt scenario i row) = row.2.map Scope.text := by
  change List.lookup "actor_scope" (row.2.map _).toList = _
  cases row.2 <;> rfl

theorem access_guarded_iff_guarded :
    ∃ trace : CertificationTrace Sample.exactRuntime, trace.scenario = .historyAccessControl ∧
      evaluate trace = [] ∧ AccessGuarded trace := by
  let trace : CertificationTrace Sample.exactRuntime :=
    rowTrace _ "RUN-1" .historyAccessControl guardedRows (by decide)
  have hpass : evaluate trace = [] := evaluate_eq_nil_iff.mpr
    (passes_rowTrace Sample.collisionFree_exactRuntime (by decide))
  refine ⟨trace, rfl, hpass, (access_guarded_iff rfl hpass).mpr ?_⟩
  have hrows : ∀ row ∈ guardedRows, row.1 = historyReadAllowed →
      row.2.map Scope.text ≠ some "UNRELATED" := by decide
  intro e he hkind
  obtain ⟨i, hi, rfl⟩ := List.mem_mapIdx.mp he
  rw [readScope_rowEvent]
  exact hrows _ (List.getElem_mem hi) hkind

/-- A partner that serves an unrelated actor and denies the sender passes. -/
theorem unrelated_actor_served :
    ∃ trace : CertificationTrace Sample.exactRuntime, trace.scenario = .historyAccessControl ∧
      evaluate trace = [] ∧ ¬ AccessGuarded trace := by
  refine ⟨rowTrace _ "RUN-1" .historyAccessControl swappedRows (by decide), rfl,
    evaluate_eq_nil_iff.mpr (passes_rowTrace Sample.collisionFree_exactRuntime (by decide)), ?_⟩
  intro h
  refine h.served (rowEvent _ .historyAccessControl 0 (historyReadAllowed, some .unrelated)) ?_ rfl rfl
  exact List.mem_mapIdx.mpr ⟨0, by decide, rfl⟩

end CertificationTraceEvaluator

end RailOne
