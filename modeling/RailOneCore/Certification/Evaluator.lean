import RailOneCore.Certification.Models
import RailOneCore.Foundation.SampleRuntime

/-!
# The trace evaluator

`evaluate` compares a trace with the table of its scenario (exact counts, minimal counts, forbidden
events, pairs whose first occurrences are ordered, history scopes) and with invariants that hold for
every scenario, and returns the failures it finds.

Whether settlement messages follow finality, and finality follows verified evidence, is a matter of
the tables: only some scenarios order these events.
-/

namespace RailOne

open TraceEventType

/-! ## Expectations -/

/-- What a scenario expects of a trace. -/
structure Expectation where
  exact : List (TraceEventType × ℕ) := []
  minimum : List (TraceEventType × ℕ) := []
  forbidden : List TraceEventType := []
  ordered : List (TraceEventType × TraceEventType) := []
  requiredScopes : List String := []

/-- `_HAPPY_ORDER`. -/
def happyOrder : List (TraceEventType × TraceEventType) :=
  [(uttCreated, rttCreated), (rttCreated, providerDispatched), (providerDispatched, providerAccepted),
    (providerAccepted, externalEvidenceVerified), (externalEvidenceVerified, rttSucceeded),
    (rttSucceeded, planFinalized), (planFinalized, smsPrepared)]

/-- `_HAPPY_EXACT`. -/
def happyExact : List (TraceEventType × ℕ) :=
  [(uttCreated, 1), (rttCreated, 1), (adapterBindingVerified, 1), (providerDispatched, 1),
    (providerAccepted, 1), (externalEvidenceVerified, 1), (rttSucceeded, 1), (planFinalized, 1),
    (smsPrepared, 2)]

/-- `_EXPECTATIONS`. -/
def expectations : CertificationScenario → Expectation
  | .p2pSettled =>
    { exact := happyExact
      minimum := [(historyReadAllowed, 2)]
      ordered := happyOrder
      requiredScopes := ["SENDER", "RECEIVER"] }
  | .merchantSupplierSettled =>
    { exact := happyExact
      minimum := [(historyReadAllowed, 2)]
      ordered := happyOrder
      requiredScopes := ["MERCHANT", "BRANCH"] }
  | .crossBorderSettled =>
    { exact := happyExact ++ [(fxQuoteBound, 1)]
      minimum := [(historyReadAllowed, 2)]
      ordered := happyOrder ++ [(uttCreated, fxQuoteBound)]
      requiredScopes := ["SENDER", "RECEIVER"] }
  | .duplicateSubmission =>
    { exact := [(uttCreated, 1), (rttCreated, 1), (providerDispatched, 1), (providerAccepted, 1),
        (idempotentReplayReturned, 1)]
      ordered := [(providerDispatched, idempotentReplayReturned)] }
  | .unknownThenReconciled =>
    { exact := [(uttCreated, 1), (rttCreated, 1), (providerDispatched, 1), (outcomeUnknown, 1),
        (reconciliationRequired, 1), (externalEvidenceVerified, 1), (rttSucceeded, 1),
        (planFinalized, 1)]
      ordered := [(providerDispatched, outcomeUnknown), (outcomeUnknown, reconciliationRequired),
        (reconciliationRequired, externalEvidenceVerified),
        (externalEvidenceVerified, rttSucceeded)] }
  | .tamperedCallbackRejected =>
    { exact := [(callbackRejected, 1)]
      forbidden := [externalEvidenceVerified, rttSucceeded, planFinalized, smsPrepared] }
  | .duplicateCallbackExactlyOnce =>
    { exact := [(callbackAccepted, 2), (externalEvidenceVerified, 1), (rttSucceeded, 1),
        (planFinalized, 1), (smsPrepared, 2)]
      ordered := [(callbackAccepted, externalEvidenceVerified)] }
  | .settlementAmountMismatchRejected =>
    { exact := [(externalEvidenceRejected, 1)]
      forbidden := [rttSucceeded, planFinalized, smsPrepared] }
  | .historyAccessControl =>
    { minimum := [(historyReadAllowed, 2)]
      exact := [(historyReadDenied, 1)]
      requiredScopes := ["SENDER", "RECEIVER", "UNRELATED"] }
  | .smsFinalityGate =>
    { exact := [(smsBlockedBeforeFinality, 1), (externalEvidenceVerified, 1), (rttSucceeded, 1),
        (planFinalized, 1), (smsPrepared, 2)]
      ordered := [(smsBlockedBeforeFinality, externalEvidenceVerified),
        (planFinalized, smsPrepared)] }
  | .adapterVersionPin =>
    { exact := [(uttCreated, 1), (rttCreated, 1), (adapterBindingVerified, 1),
        (adapterBindingMismatchRejected, 1), (providerDispatched, 1)]
      ordered := [(rttCreated, adapterBindingVerified),
        (adapterBindingVerified, providerDispatched)] }

/-! ## Evaluation -/

namespace CertificationTraceEvaluator

variable {rt : Runtime} (trace : CertificationTrace rt)

/-- How often a kind of event occurs. -/
def count (kind : TraceEventType) : ℕ := trace.events.countP fun e => e.eventType = kind

/-- `_first`, which is asked only for kinds that occur. -/
def first (kind : TraceEventType) : ℕ :=
  ((trace.events.find? fun e => e.eventType = kind).map fun e => e.sequence).getD 0

/-- The scopes of the history reads. -/
def scopes : List (Option String) :=
  (trace.events.filter fun e =>
    e.eventType = historyReadAllowed ∨ e.eventType = historyReadDenied).map
      fun e => e.metadata.lookup "actor_scope"

/-- A failure, if the condition holds. -/
def failIf (p : Prop) [Decidable p] (message : String) : List String := if p then [message] else []

/-- `_global_invariants`. -/
def globalInvariants : List String :=
  let timestamps := trace.events.map fun e => e.occurredAt
  failIf (timestamps ≠ timestamps.insertionSort (· ≤ ·)) "event timestamps are not monotonic" ++
  failIf (1 < (trace.events.filterMap fun e => e.uttId).dedup.length)
    "one certification case emitted multiple UTT identities" ++
  failIf (count trace rttCreated ≠ 0 ∧ count trace uttCreated = 0)
    "RTT exists without a preceding UTT" ++
  failIf (count trace rttSucceeded ≠ 0 ∧ count trace externalEvidenceVerified = 0)
    "RTT succeeded without verified external evidence" ++
  failIf (∃ e ∈ trace.events, e.eventType = externalEvidenceVerified ∧ e.evidenceSha256 = none)
    "verified external evidence omitted its evidence hash" ++
  failIf (count trace planFinalized ≠ 0 ∧ count trace rttSucceeded = 0)
    "plan finalized without a successful RTT" ++
  failIf (count trace smsPrepared ≠ 0 ∧ count trace planFinalized = 0)
    "settlement SMS was prepared before plan finality" ++
  failIf (count trace outcomeUnknown ≠ 0 ∧ 1 < count trace providerDispatched)
    "unknown provider outcome caused a blind redispatch" ++
  failIf (1 < (trace.events.filterMap fun e => e.rttId).dedup.length ∧
    trace.scenario ≠ .unknownThenReconciled)
    "case changed RTT identity without an explicit retry scenario" ++
  failIf ((trace.events.map fun e => e.eventId).dedup.length ≠ trace.events.length)
    "duplicate certification event content id"

/-- The failures that `evaluate` collects, in the order of the checks. -/
def failures : List String :=
  let expected := expectations trace.scenario
  (expected.exact.flatMap fun p => failIf (count trace p.1 ≠ p.2)
    (p.1.value ++ ": expected exactly " ++ p.2.repr ++ ", observed " ++ (count trace p.1).repr)) ++
  (expected.minimum.flatMap fun p => failIf (count trace p.1 < p.2)
    (p.1.value ++ ": expected at least " ++ p.2.repr ++ ", observed " ++ (count trace p.1).repr)) ++
  (expected.forbidden.flatMap fun kind => failIf (count trace kind ≠ 0)
    (kind.value ++ ": forbidden event observed")) ++
  (expected.ordered.flatMap fun p =>
    failIf (count trace p.1 ≠ 0 ∧ count trace p.2 ≠ 0 ∧ first trace p.2 ≤ first trace p.1)
      ("event order violated: " ++ p.1.value ++ " must precede " ++ p.2.value)) ++
  (expected.requiredScopes.flatMap fun scope => failIf (some scope ∉ scopes trace)
    ("history scope was not exercised: " ++ scope)) ++
  globalInvariants trace

/-- `evaluate`: the failures, each once and sorted. -/
def evaluate : List String := (failures trace).dedup.insertionSort (· ≤ ·)

/-! ## What a passing trace satisfies -/

variable {trace}

theorem evaluate_eq_nil : evaluate trace = [] ↔ failures trace = [] := by
  constructor
  · intro h
    have hlen := congrArg List.length h
    rw [evaluate, List.length_insertionSort, List.length_nil, List.length_eq_zero_iff,
      List.dedup_eq_nil] at hlen
    exact hlen
  · intro h
    rw [evaluate, h]
    rfl

@[simp] theorem failIf_eq_nil {p : Prop} [Decidable p] {message : String} :
    failIf p message = [] ↔ ¬ p := by
  unfold failIf
  split <;> simp_all

/-- The checks that a trace without failures has passed. -/
structure Passes (trace : CertificationTrace rt) : Prop where
  exact : ∀ p ∈ (expectations trace.scenario).exact, count trace p.1 = p.2
  minimum : ∀ p ∈ (expectations trace.scenario).minimum, p.2 ≤ count trace p.1
  forbidden : ∀ kind ∈ (expectations trace.scenario).forbidden, count trace kind = 0
  ordered : ∀ p ∈ (expectations trace.scenario).ordered, count trace p.1 ≠ 0 →
    count trace p.2 ≠ 0 → first trace p.1 < first trace p.2
  scopes : ∀ scope ∈ (expectations trace.scenario).requiredScopes, some scope ∈ scopes trace
  timestamps : trace.events.map (fun e => e.occurredAt) =
    (trace.events.map fun e => e.occurredAt).insertionSort (· ≤ ·)
  uttIds : (trace.events.filterMap fun e => e.uttId).dedup.length ≤ 1
  created : count trace rttCreated ≠ 0 → count trace uttCreated ≠ 0
  succeeded : count trace rttSucceeded ≠ 0 → count trace externalEvidenceVerified ≠ 0
  evidence : ∀ e ∈ trace.events, e.eventType = externalEvidenceVerified → e.evidenceSha256 ≠ none
  finalized : count trace planFinalized ≠ 0 → count trace rttSucceeded ≠ 0
  prepared : count trace smsPrepared ≠ 0 → count trace planFinalized ≠ 0
  redispatch : count trace outcomeUnknown ≠ 0 → count trace providerDispatched ≤ 1
  rttIds : (trace.events.filterMap fun e => e.rttId).dedup.length ≤ 1 ∨
    trace.scenario = .unknownThenReconciled
  eventIds : (trace.events.map fun e => e.eventId).dedup.length = trace.events.length

theorem evaluate_eq_nil_iff : evaluate trace = [] ↔ Passes trace := by
  rw [evaluate_eq_nil]
  simp only [failures, globalInvariants, List.append_eq_nil_iff, List.flatMap_eq_nil_iff,
    failIf_eq_nil, not_and, not_not, not_lt, not_le, not_exists, ne_eq]
  constructor
  · rintro ⟨⟨⟨⟨⟨h₁, h₂⟩, h₃⟩, h₄⟩, h₅⟩, ⟨⟨⟨⟨⟨⟨⟨⟨⟨g₁, g₂⟩, g₃⟩, g₄⟩, g₅⟩, g₆⟩, g₇⟩, g₈⟩, g₉⟩, g₁₀⟩⟩
    refine ⟨h₁, h₂, h₃, h₄, h₅, g₁, g₂, g₃, g₄, g₅, g₆, g₇, g₈, ?_, g₁₀⟩
    by_cases hlen : 1 < (trace.events.filterMap fun e => e.rttId).dedup.length
    · exact .inr (g₉ hlen)
    · exact .inl (not_lt.mp hlen)
  · intro h
    refine ⟨⟨⟨⟨⟨h.exact, h.minimum⟩, h.forbidden⟩, h.ordered⟩, h.scopes⟩,
      ⟨⟨⟨⟨⟨⟨⟨⟨⟨h.timestamps, h.uttIds⟩, h.created⟩, h.succeeded⟩, h.evidence⟩,
      h.finalized⟩, h.prepared⟩, h.redispatch⟩, ?_⟩, h.eventIds⟩⟩
    exact fun hlen => h.rttIds.resolve_left (not_le.mpr hlen)

/-! ## First occurrences -/

variable (trace) in
theorem sequence_pairwise : trace.events.Pairwise fun a b => a.sequence < b.sequence := by
  have h : (trace.events.map fun e => e.sequence).Pairwise (· < ·) := by
    rw [trace.contiguous]
    exact List.pairwise_lt_range'
  exact List.pairwise_map.mp h

theorem exists_of_count_ne_zero {kind : TraceEventType} (h : count trace kind ≠ 0) :
    ∃ e ∈ trace.events, e.eventType = kind := by
  simpa using List.countP_pos_iff.mp (Nat.pos_of_ne_zero h)

theorem count_ne_zero_of_mem {kind : TraceEventType} {e : CertificationTraceEvent rt}
    (he : e ∈ trace.events) (hkind : e.eventType = kind) : count trace kind ≠ 0 :=
  (List.countP_pos_iff.mpr ⟨e, he, by simpa using hkind⟩).ne'

/-- In a list sorted by sequence number, the first event of a kind has the least number. -/
theorem find?_le_of_mem {l : List (CertificationTraceEvent rt)}
    (hl : l.Pairwise fun a b => a.sequence < b.sequence) {p : CertificationTraceEvent rt → Bool}
    {e : CertificationTraceEvent rt} (he : e ∈ l) (hp : p e = true) :
    ∃ f ∈ l, l.find? p = some f ∧ p f = true ∧ f.sequence ≤ e.sequence := by
  induction l with
  | nil => cases he
  | cons a t ih =>
    cases ha : p a with
    | true =>
      refine ⟨a, List.mem_cons_self, List.find?_cons_of_pos ha, ha, ?_⟩
      rcases List.mem_cons.mp he with rfl | he
      · exact le_rfl
      · exact ((List.pairwise_cons.mp hl).1 e he).le
    | false =>
      have he' : e ∈ t := by
        rcases List.mem_cons.mp he with rfl | he
        · rw [hp] at ha
          cases ha
        · exact he
      obtain ⟨f, hf, hfind, hpf, hle⟩ := ih (List.pairwise_cons.mp hl).2 he'
      exact ⟨f, List.mem_cons_of_mem a hf, by rw [List.find?_cons_of_neg (by simp [ha])]; exact hfind,
        hpf, hle⟩

/-- `_first` is the number of an event of the kind, and no event of the kind has a smaller one. -/
theorem first_le_of_mem {kind : TraceEventType} {e : CertificationTraceEvent rt}
    (he : e ∈ trace.events) (hkind : e.eventType = kind) :
    first trace kind ≤ e.sequence ∧
      ∃ f ∈ trace.events, f.eventType = kind ∧ f.sequence = first trace kind := by
  obtain ⟨f, hf, hfind, hpf, hle⟩ := find?_le_of_mem (sequence_pairwise trace)
    (p := fun e => e.eventType = kind) he (by simpa using hkind)
  have hfirst : first trace kind = f.sequence := by rw [first, hfind]; rfl
  exact ⟨hfirst ▸ hle, f, hf, by simpa using hpf, hfirst.symm⟩

/-! ## Settlement messages, finality and evidence -/

/-- Every event of one kind comes after an event of another. -/
def PrecededBy (trace : CertificationTrace rt) (before after : TraceEventType) : Prop :=
  ∀ e ∈ trace.events, e.eventType = after →
    ∃ e' ∈ trace.events, e'.eventType = before ∧ e'.sequence < e.sequence

/-- Settlement messages follow finality, finality follows success, and success follows verified
evidence with a hash. -/
structure FinalityOrdered (trace : CertificationTrace rt) : Prop where
  prepared : PrecededBy trace planFinalized smsPrepared
  finalized : PrecededBy trace rttSucceeded planFinalized
  succeeded : ∀ e ∈ trace.events, e.eventType = rttSucceeded →
    ∃ e' ∈ trace.events, e'.eventType = externalEvidenceVerified ∧ e'.evidenceSha256 ≠ none ∧
      e'.sequence < e.sequence

/-- A table that orders two kinds and requires the first one makes every event of the second kind come
after one of the first. -/
theorem precededBy_of_ordered (h : Passes trace) {before after : TraceEventType}
    (hordered : (before, after) ∈ (expectations trace.scenario).ordered)
    (hcount : count trace before ≠ 0) : PrecededBy trace before after := by
  intro e he hkind
  obtain ⟨b, hb, hbkind⟩ := exists_of_count_ne_zero hcount
  obtain ⟨-, f, hf, hfkind, hfirst⟩ := first_le_of_mem hb hbkind
  have hlt : first trace before < first trace after :=
    h.ordered (before, after) hordered hcount (count_ne_zero_of_mem he hkind)
  exact ⟨f, hf, hfkind, hfirst ▸ hlt.trans_le (first_le_of_mem he hkind).1⟩

theorem precededBy_of_count_eq_zero {before after : TraceEventType} (h : count trace after = 0) :
    PrecededBy trace before after :=
  fun _ he hkind => absurd h (count_ne_zero_of_mem he hkind)

/-- Under a table with the order and the counts of the settled scenarios a passing trace is ordered. -/
theorem finalityOrdered_of_happy (h : Passes trace)
    (horder : ∀ p ∈ happyOrder, p ∈ (expectations trace.scenario).ordered)
    (hexact : ∀ p ∈ happyExact, p ∈ (expectations trace.scenario).exact) :
    FinalityOrdered trace := by
  have hone : ∀ kind, (kind, 1) ∈ happyExact → count trace kind ≠ 0 := by
    intro kind hmem hzero
    have := h.exact _ (hexact _ hmem)
    rw [hzero] at this
    cases this
  refine ⟨precededBy_of_ordered h (horder _ (by decide)) (hone _ (by decide)),
    precededBy_of_ordered h (horder _ (by decide)) (hone _ (by decide)), ?_⟩
  intro e he hkind
  obtain ⟨e', he', hkind', hlt⟩ := precededBy_of_ordered h
    (horder (externalEvidenceVerified, rttSucceeded) (by decide)) (hone _ (by decide)) e he hkind
  exact ⟨e', he', hkind', h.evidence e' he' hkind', hlt⟩

/-- Under a table that forbids success, finality and settlement messages there is nothing to order. -/
theorem finalityOrdered_of_forbidden (h : Passes trace)
    (hforbidden : ∀ kind ∈ [rttSucceeded, planFinalized, smsPrepared],
      kind ∈ (expectations trace.scenario).forbidden) :
    FinalityOrdered trace := by
  have hzero : ∀ kind ∈ [rttSucceeded, planFinalized, smsPrepared], count trace kind = 0 :=
    fun kind hmem => h.forbidden kind (hforbidden kind hmem)
  exact ⟨precededBy_of_count_eq_zero (hzero _ (by decide)),
    precededBy_of_count_eq_zero (hzero _ (by decide)),
    fun e he hkind => absurd (hzero _ (by decide)) (count_ne_zero_of_mem he hkind)⟩

/-! ## Event identifiers -/

/-- Events with different sequence numbers have different identifiers. -/
theorem sequence_eq_of_eventId (hrt : CollisionFree rt) {a b : CertificationTraceEvent rt}
    (h : a.eventId = b.eventId) : a.sequence = b.sequence := by
  have hkeys : ∀ e : TraceEventCore, (e.material.map Prod.fst).Nodup := fun e => by
    simp [TraceEventCore.material]
  have hget := rt.get_of_contentId_eq hrt (hkeys _) (hkeys _) a.id_eq (h ▸ b.id_eq) "sequence"
  have hseq : (Json.int a.sequence) = .int b.sequence := Option.some.inj hget
  exact Int.ofNat.inj (Json.int.inj hseq)

variable (trace) in
/-- The events of a trace never share an identifier. -/
theorem eventIds_nodup (hrt : CollisionFree rt) : (trace.events.map fun e => e.eventId).Nodup :=
  List.pairwise_map.mpr ((sequence_pairwise trace).imp fun hlt hid =>
    hlt.ne (sequence_eq_of_eventId hrt hid))

/-! ## Traces with given events -/

/-- Who reads the history. -/
inductive Scope
  | sender | receiver | unrelated
  deriving DecidableEq, Repr

/-- The text of a scope. -/
def Scope.text : Scope → String
  | .sender => "SENDER"
  | .receiver => "RECEIVER"
  | .unrelated => "UNRELATED"

/-- An event of the given kind and scope at the given place.  Verified evidence carries a hash. -/
def rowEvent (rt : Runtime) (scenario : CertificationScenario) (i : ℕ)
    (row : TraceEventType × Option Scope) : CertificationTraceEvent rt :=
  .create rt
    { scenario
      eventType := row.1
      occurredAt := 0
      sequence := i + 1
      adapterBindingRef := "railone.reference@1.0.0"
      uttId := none
      rttId := none
      evidenceSha256 := if row.1 = externalEvidenceVerified then
        some (String.ofList (List.replicate 64 'a')) else none
      metadata := (row.2.map fun scope => ("actor_scope", scope.text)).toList
      sequence_pos := by omega
      binding := by decide
      digest := by
        split
        · intro d hd
          cases hd
          decide
        · nofun
      sorted := by cases row.2 <;> simp
      safe := by cases row.2 <;> simp [safeMetadataKeys]
      bounded := by
        rcases row.2 with _ | (_ | _ | _)
        · nofun
        all_goals
          intro p hp
          cases List.mem_singleton.mp hp
          decide }

/-- A trace with the given rows, all at one instant. -/
def rowTrace (rt : Runtime) (runId : String) (scenario : CertificationScenario)
    (rows : List (TraceEventType × Option Scope)) (h : rows ≠ []) : CertificationTrace rt :=
  .create
    { runId
      scenario
      adapterBindingRef := "railone.reference@1.0.0"
      startedAt := 0
      completedAt := 0
      events := rows.mapIdx (rowEvent rt scenario)
      in_time := le_rfl
      nonempty := by simpa using h
      contiguous := by
        refine List.ext_getElem (by simp) fun i hi hi' => ?_
        simp [rowEvent, CertificationTraceEvent.create, add_comm]
      scenarios := by
        intro e he
        obtain ⟨i, hi, rfl⟩ := List.mem_mapIdx.mp he
        rfl
      bindings := by
        intro e he
        obtain ⟨i, hi, rfl⟩ := List.mem_mapIdx.mp he
        rfl }

section Rows

variable {runId : String} {scenario : CertificationScenario}
  {rows : List (TraceEventType × Option Scope)} {h : rows ≠ []}

theorem count_rowTrace (kind : TraceEventType) :
    count (rowTrace rt runId scenario rows h) kind = rows.countP fun row => row.1 = kind := by
  change (rows.mapIdx (rowEvent rt scenario)).countP _ = _
  have hkinds : (rows.mapIdx (rowEvent rt scenario)).map (fun e => e.eventType) =
      rows.map Prod.fst := by
    refine List.ext_getElem (by simp) fun i hi hi' => ?_
    simp [rowEvent, CertificationTraceEvent.create]
  have hcount := congrArg (List.countP fun k => decide (k = kind)) hkinds
  rw [List.countP_map, List.countP_map] at hcount
  exact hcount

@[simp] theorem rowEvent_eventType (i : ℕ) (row : TraceEventType × Option Scope) :
    (rowEvent rt scenario i row).eventType = row.1 := rfl

@[simp] theorem rowEvent_sequence (i : ℕ) (row : TraceEventType × Option Scope) :
    (rowEvent rt scenario i row).sequence = i + 1 := rfl

theorem find?_mapIdx_rowEvent (kind : TraceEventType) (k : ℕ)
    (rows : List (TraceEventType × Option Scope)) :
    ((rows.mapIdx fun i => rowEvent rt scenario (i + k)).find? fun e => e.eventType = kind).map
        (fun e => e.sequence) =
      (rows.findIdx? fun row => row.1 = kind).map (· + k + 1) := by
  induction rows generalizing k with
  | nil => rfl
  | cons row rows ih =>
    rw [List.mapIdx_cons, List.findIdx?_cons]
    by_cases hkind : row.1 = kind
    · rw [List.find?_cons_of_pos (by simpa using hkind), if_pos (by simpa using hkind)]
      simp
    · rw [List.find?_cons_of_neg (by simpa using hkind), if_neg (by simpa using hkind)]
      simp only [add_right_comm _ 1 k, add_assoc _ k 1] at ih ⊢
      rw [ih (k + 1), Option.map_map]
      congr 1
      funext i
      simp only [Function.comp_apply]
      omega

/-- The number of the first row of a kind. -/
def firstRow (rows : List (TraceEventType × Option Scope)) (kind : TraceEventType) : ℕ :=
  ((rows.findIdx? fun row => row.1 = kind).map (· + 1)).getD 0

theorem first_rowTrace (kind : TraceEventType) :
    first (rowTrace rt runId scenario rows h) kind = firstRow rows kind := by
  rw [first, firstRow]
  exact congrArg (Option.getD · 0) (find?_mapIdx_rowEvent kind 0 rows)

/-- The rows pass the checks of the scenario. -/
def RowsPass (scenario : CertificationScenario) (rows : List (TraceEventType × Option Scope)) :
    Prop :=
  let count kind := rows.countP fun row => row.1 = kind
  (∀ p ∈ (expectations scenario).exact, count p.1 = p.2) ∧
  (∀ p ∈ (expectations scenario).minimum, p.2 ≤ count p.1) ∧
  (∀ kind ∈ (expectations scenario).forbidden, count kind = 0) ∧
  (∀ p ∈ (expectations scenario).ordered, count p.1 ≠ 0 → count p.2 ≠ 0 →
    firstRow rows p.1 < firstRow rows p.2) ∧
  (∀ scope ∈ (expectations scenario).requiredScopes, ∃ row ∈ rows,
    (row.1 = historyReadAllowed ∨ row.1 = historyReadDenied) ∧ row.2.map Scope.text = some scope) ∧
  (count rttCreated ≠ 0 → count uttCreated ≠ 0) ∧
  (count rttSucceeded ≠ 0 → count externalEvidenceVerified ≠ 0) ∧
  (count planFinalized ≠ 0 → count rttSucceeded ≠ 0) ∧
  (count smsPrepared ≠ 0 → count planFinalized ≠ 0) ∧
  (count outcomeUnknown ≠ 0 → count providerDispatched ≤ 1)

instance : Decidable (RowsPass scenario rows) := by unfold RowsPass; infer_instance

theorem passes_rowTrace (hrt : CollisionFree rt) (hpass : RowsPass scenario rows) :
    Passes (rowTrace rt runId scenario rows h) := by
  obtain ⟨hexact, hminimum, hforbidden, hordered, hscopes, hcreated, hsucceeded, hfinalized,
    hprepared, hredispatch⟩ := hpass
  have hmem : ∀ e ∈ (rowTrace rt runId scenario rows h).events, ∃ i row, row ∈ rows ∧
      rowEvent rt scenario i row = e := by
    intro e he
    obtain ⟨i, hi, rfl⟩ := List.mem_mapIdx.mp he
    exact ⟨i, rows[i], List.getElem_mem hi, rfl⟩
  have hnone : ∀ g : CertificationTraceEvent rt → Option String,
      (∀ e ∈ (rowTrace rt runId scenario rows h).events, g e = none) →
      ((rowTrace rt runId scenario rows h).events.filterMap g).dedup.length ≤ 1 := by
    intro g hg
    rw [List.filterMap_eq_nil_iff.mpr hg]
    simp
  refine
    { exact := ?_, minimum := ?_, forbidden := ?_, ordered := ?_, scopes := ?_, timestamps := ?_,
      uttIds := ?_, created := ?_, succeeded := ?_, evidence := ?_, finalized := ?_, prepared := ?_,
      redispatch := ?_, rttIds := ?_, eventIds := ?_ }
  · intro p hp
    rw [count_rowTrace]
    exact hexact p hp
  · intro p hp
    rw [count_rowTrace]
    exact hminimum p hp
  · intro kind hkind
    rw [count_rowTrace]
    exact hforbidden kind hkind
  · intro p hp
    rw [count_rowTrace, count_rowTrace, first_rowTrace, first_rowTrace]
    exact hordered p hp
  · intro scope hscope
    obtain ⟨row, hrow, hkind, htext⟩ := hscopes scope hscope
    obtain ⟨i, hi, rfl⟩ := List.mem_iff_getElem.mp hrow
    refine List.mem_map.mpr ⟨rowEvent rt scenario i rows[i], List.mem_filter.mpr
      ⟨List.mem_mapIdx.mpr ⟨i, hi, rfl⟩, decide_eq_true hkind⟩, ?_⟩
    rw [← htext]
    change List.lookup "actor_scope" (rows[i].2.map _).toList = _
    cases rows[i].2 <;> rfl
  · refine (List.Pairwise.insertionSort_eq ?_).symm
    refine List.pairwise_map.mpr (List.pairwise_of_forall_mem_list fun a ha b hb => ?_)
    obtain ⟨i, row, -, rfl⟩ := hmem a ha
    obtain ⟨j, row', -, rfl⟩ := hmem b hb
    exact le_rfl
  · refine hnone _ fun e he => ?_
    obtain ⟨i, row, -, rfl⟩ := hmem e he
    rfl
  · simpa only [count_rowTrace] using hcreated
  · simpa only [count_rowTrace] using hsucceeded
  · intro e he hkind
    obtain ⟨i, row, -, rfl⟩ := hmem e he
    change (if row.1 = externalEvidenceVerified then _ else none) ≠ none
    rw [rowEvent_eventType] at hkind
    rw [if_pos hkind]
    simp
  · simpa only [count_rowTrace] using hfinalized
  · simpa only [count_rowTrace] using hprepared
  · simpa only [count_rowTrace] using hredispatch
  · refine .inl (hnone _ fun e he => ?_)
    obtain ⟨i, row, -, rfl⟩ := hmem e he
    rfl
  · rw [(eventIds_nodup _ hrt).dedup, List.length_map]

end Rows

/-! ## The scenarios whose tables order finality -/

/-- The scenarios whose tables order settlement messages, finality and evidence, or forbid them. -/
def ordersFinality : List CertificationScenario :=
  [.p2pSettled, .merchantSupplierSettled, .crossBorderSettled, .tamperedCallbackRejected,
    .settlementAmountMismatchRejected]

/-- Rows that pass a scenario and finalize the plan before the RTT has succeeded. -/
def prematureRows (scenario : CertificationScenario) : List (TraceEventType × Option Scope) :=
  (match scenario with
  | .duplicateSubmission => [(uttCreated, none), (rttCreated, none), (providerDispatched, none),
      (providerAccepted, none), (idempotentReplayReturned, none)]
  | .unknownThenReconciled => [(uttCreated, none), (rttCreated, none), (providerDispatched, none),
      (outcomeUnknown, none), (reconciliationRequired, none)]
  | .duplicateCallbackExactlyOnce => [(callbackAccepted, none), (callbackAccepted, none)]
  | .historyAccessControl => [(historyReadAllowed, some .sender),
      (historyReadAllowed, some .receiver), (historyReadDenied, some .unrelated)]
  | .smsFinalityGate => [(smsBlockedBeforeFinality, none)]
  | .adapterVersionPin => [(uttCreated, none), (rttCreated, none), (adapterBindingVerified, none),
      (adapterBindingMismatchRejected, none), (providerDispatched, none)]
  | _ => []) ++
  [(planFinalized, none), (smsPrepared, none), (smsPrepared, none), (externalEvidenceVerified, none),
    (rttSucceeded, none)]

theorem rowsPass_prematureRows {scenario : CertificationScenario} (h : scenario ∉ ordersFinality) :
    RowsPass scenario (prematureRows scenario) := by
  cases scenario <;> first | exact absurd h (by decide) | decide

theorem prematureRows_ne_nil (scenario : CertificationScenario) : prematureRows scenario ≠ [] := by
  simp [prematureRows]

/-- Where one kind precedes another, it also does so at the first occurrences. -/
theorem first_lt_of_precededBy {before after : TraceEventType} (h : PrecededBy trace before after)
    (hcount : count trace after ≠ 0) : first trace before < first trace after := by
  obtain ⟨e, he, hkind⟩ := exists_of_count_ne_zero hcount
  obtain ⟨-, f, hf, hfkind, hfirst⟩ := first_le_of_mem he hkind
  obtain ⟨b, hb, hbkind, hlt⟩ := h f hf hfkind
  exact hfirst ▸ (first_le_of_mem hb hbkind).1.trans_lt hlt

theorem not_finalityOrdered_prematureRows (rt : Runtime) (runId : String)
    {scenario : CertificationScenario} (h : scenario ∉ ordersFinality) :
    ¬ FinalityOrdered (rowTrace rt runId scenario (prematureRows scenario)
      (prematureRows_ne_nil scenario)) := by
  intro hordered
  have hcount : count (rowTrace rt runId scenario (prematureRows scenario)
      (prematureRows_ne_nil scenario)) planFinalized ≠ 0 := by
    rw [count_rowTrace]
    cases scenario <;> first | exact absurd h (by decide) | decide
  have hlt := first_lt_of_precededBy hordered.finalized hcount
  rw [first_rowTrace, first_rowTrace] at hlt
  revert hlt
  cases scenario <;> first | exact absurd h (by decide) | decide

/-- Passing traces of a scenario show no settlement message before finality and no finality before
verified evidence exactly when the table of the scenario orders or forbids these events. -/
theorem passing_traces_ordered_iff (hrt : CollisionFree rt) (scenario : CertificationScenario) :
    (∀ trace : CertificationTrace rt, trace.scenario = scenario → evaluate trace = [] →
      FinalityOrdered trace) ↔ scenario ∈ ordersFinality := by
  constructor
  · intro h
    by_contra hscenario
    refine not_finalityOrdered_prematureRows rt "RUN-1" hscenario (h _ rfl ?_)
    exact evaluate_eq_nil_iff.mpr (passes_rowTrace hrt (rowsPass_prematureRows hscenario))
  · rintro hmem trace rfl hevaluate
    have hpasses := evaluate_eq_nil_iff.mp hevaluate
    simp only [ordersFinality, List.mem_cons, List.not_mem_nil, or_false] at hmem
    rcases hmem with h | h | h | h | h
    · exact finalityOrdered_of_happy hpasses (by rw [h]; decide) (by rw [h]; decide)
    · exact finalityOrdered_of_happy hpasses (by rw [h]; decide) (by rw [h]; decide)
    · exact finalityOrdered_of_happy hpasses (by rw [h]; decide) (by rw [h]; decide)
    · exact finalityOrdered_of_forbidden hpasses (by rw [h]; decide)
    · exact finalityOrdered_of_forbidden hpasses (by rw [h]; decide)

/-- The digest of the sample tells events apart. -/
theorem passing_traces_ordered_iff_sample :
    CertificationScenario.p2pSettled ∈ ordersFinality ∧
      ∀ trace : CertificationTrace Sample.exactRuntime, trace.scenario = .p2pSettled →
        evaluate trace = [] → FinalityOrdered trace :=
  ⟨by decide,
    (passing_traces_ordered_iff Sample.collisionFree_exactRuntime .p2pSettled).mpr (by decide)⟩

/-- A trace of the finality gate for settlement messages passes although it finalizes the plan and
prepares the messages before any evidence was verified. -/
theorem premature_finality_passes :
    ∃ trace : CertificationTrace Sample.exactRuntime, trace.scenario = .smsFinalityGate ∧
      evaluate trace = [] ∧ ¬ FinalityOrdered trace :=
  ⟨rowTrace _ "RUN-1" .smsFinalityGate (prematureRows .smsFinalityGate) (prematureRows_ne_nil _), rfl,
    evaluate_eq_nil_iff.mpr (passes_rowTrace Sample.collisionFree_exactRuntime
      (rowsPass_prematureRows (by decide))),
    not_finalityOrdered_prematureRows _ _ (by decide)⟩

end CertificationTraceEvaluator

end RailOne
