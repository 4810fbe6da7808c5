import RailOneCore.Certification.Evaluator
import RailOneCore.Foundation.Epoch

/-!
# The codec of certification traces

`trace_from_payload` reads a trace back from its payload and runs the constructors again.  A payload
carries whole seconds, so that the trace read back has its instants cut to seconds.  The evaluator
compares instants at full precision: events out of order within one second are a failure of the trace
and none of the trace read back.
-/

namespace RailOne

/-! ## Texts of the enumerations -/

/-- The scenarios, in the order of the source. -/
def CertificationScenario.all : List CertificationScenario :=
  [.p2pSettled, .merchantSupplierSettled, .crossBorderSettled, .duplicateSubmission,
    .unknownThenReconciled, .tamperedCallbackRejected, .duplicateCallbackExactlyOnce,
    .settlementAmountMismatchRejected, .historyAccessControl, .smsFinalityGate, .adapterVersionPin]

/-- `CertificationScenario(text)`. -/
def CertificationScenario.ofValue (text : String) : Except Exn CertificationScenario :=
  match all.find? fun s => s.value == text with
  | some s => .ok s
  | none => .error ⟨.valueError, "'" ++ text ++ "' is not a valid CertificationScenario"⟩

theorem CertificationScenario.ofValue_value (s : CertificationScenario) : ofValue s.value = .ok s := by
  cases s <;> rfl

/-- The kinds of events, in the order of the source. -/
def TraceEventType.all : List TraceEventType :=
  [.intentAccepted, .uttCreated, .fxQuoteBound, .historyIndexed, .planCreated, .rttCreated,
    .adapterBindingVerified, .adapterBindingMismatchRejected, .providerDispatched, .providerAccepted,
    .idempotentReplayReturned, .outcomeUnknown, .reconciliationRequired, .callbackAccepted,
    .callbackRejected, .externalEvidenceVerified, .externalEvidenceRejected, .rttSucceeded, .rttFailed,
    .planFinalized, .smsBlockedBeforeFinality, .smsPrepared, .smsSent, .historyReadAllowed,
    .historyReadDenied]

/-- `TraceEventType(text)`. -/
def TraceEventType.ofValue (text : String) : Except Exn TraceEventType :=
  match all.find? fun kind => kind.value == text with
  | some kind => .ok kind
  | none => .error ⟨.valueError, "'" ++ text ++ "' is not a valid TraceEventType"⟩

theorem TraceEventType.ofValue_value (kind : TraceEventType) : ofValue kind.value = .ok kind := by
  cases kind <;> rfl

/-! ## Constructors -/

/-- `sorted` on pairs of texts. -/
def sortPairs (metadata : List (String × String)) : List (String × String) :=
  metadata.insertionSort fun a b => a.1 < b.1 ∨ a.1 = b.1 ∧ a.2 ≤ b.2

/-- `CertificationTraceEvent.__post_init__`.  The material of an event is canonical JSON, so that its
content identifier always exists. -/
def CertificationTraceEvent.build (rt : Runtime) (eventId : String) (scenario : CertificationScenario)
    (eventType : TraceEventType) (occurredAt : Instant) (sequence : Int) (adapterBindingRef : String)
    (uttId rttId evidenceSha256 : Option String) (metadata : List (String × String)) :
    Except Exn (CertificationTraceEvent rt) :=
  let normalized := sortPairs metadata
  if hsequence : 1 ≤ sequence then
    if hbinding : isBindingRef adapterBindingRef = true then
      if hdigest : ∀ d ∈ evidenceSha256, InstitutionExecutionInstruction.isDigest d = true then
        if hsorted : normalized.Pairwise fun a b => a.1 < b.1 then
          if hsafe : ∀ p ∈ normalized, p.1 ∈ safeMetadataKeys then
            if hbounded : ∀ p ∈ normalized, p.2 ≠ "" ∧ p.2.length ≤ 128 then
              let core : TraceEventCore :=
                { scenario, eventType, occurredAt, sequence := sequence.toNat, adapterBindingRef, uttId,
                  rttId, evidenceSha256, metadata := normalized, sequence_pos := by omega,
                  binding := hbinding, digest := hdigest, sorted := hsorted, safe := hsafe,
                  bounded := hbounded }
              if hid : rt.contentId "CERT-EVT" (.obj core.material) = .ok eventId then
                .ok { toTraceEventCore := core, eventId, id_eq := hid }
              else .error ⟨.valueError, "certification event content identifier mismatch"⟩
            else .error ⟨.valueError,
              "certification event metadata values must be non-empty and bounded"⟩
          else .error ⟨.valueError, "certification event metadata contains a non-canonical key"⟩
        else .error ⟨.valueError, "certification event metadata keys must be unique"⟩
      else .error ⟨.valueError, "evidence_sha256 must be a lowercase SHA-256 digest"⟩
    else .error ⟨.valueError, "certification event requires adapter_id@semantic-version"⟩
  else .error ⟨.valueError, "certification event sequence must be positive"⟩

/-- `CertificationTrace.__post_init__`. -/
def CertificationTrace.build (rt : Runtime) (traceId runId : String) (scenario : CertificationScenario)
    (adapterBindingRef : String) (startedAt completedAt : Instant)
    (events : List (CertificationTraceEvent rt)) : Except Exn (CertificationTrace rt) :=
  if htime : startedAt ≤ completedAt then
    if hempty : events ≠ [] then
      if hsequence : events.map (fun e => e.sequence) = List.range' 1 events.length then
        if hscenario : ∀ e ∈ events, e.scenario = scenario then
          if hbinding : ∀ e ∈ events, e.adapterBindingRef = adapterBindingRef then
            let core : TraceCore rt :=
              { runId, scenario, adapterBindingRef, startedAt, completedAt, events, in_time := htime,
                nonempty := hempty, contiguous := hsequence, scenarios := hscenario,
                bindings := hbinding }
            if hid : rt.contentId "CERT-TRACE" (.obj core.material) = .ok traceId then
              .ok { toTraceCore := core, traceId, id_eq := hid }
            else .error ⟨.valueError, "certification trace content identifier mismatch"⟩
          else .error ⟨.valueError, "certification trace changed adapter binding"⟩
        else .error ⟨.valueError, "certification trace contains another scenario"⟩
      else .error ⟨.valueError, "certification event sequence must be contiguous and ordered"⟩
    else .error ⟨.valueError, "certification trace cannot be empty"⟩
  else .error ⟨.valueError, "certification trace cannot complete before it starts"⟩

/-- `CertificationTrace.to_payload`. -/
def CertificationTrace.toPayload {rt : Runtime} (t : CertificationTrace rt) : Fields :=
  ("trace_id", .str t.traceId) :: t.material

/-- The constructor accepts the fields of an event that exists. -/
theorem CertificationTraceEvent.build_eq_ok {rt : Runtime} (e : CertificationTraceEvent rt)
    {metadata : List (String × String)} (h : sortPairs metadata = e.metadata) :
    build rt e.eventId e.scenario e.eventType e.occurredAt e.sequence e.adapterBindingRef e.uttId e.rttId
      e.evidenceSha256 metadata = .ok e := by
  have hsequence : (1 : ℤ) ≤ e.sequence := by exact_mod_cast e.sequence_pos
  rcases e with ⟨⟨_, _, _, _, _, _, _, _, normalized, _, hbinding, hdigest, hsorted, hsafe, hbounded⟩, _, hid⟩
  subst h
  unfold build
  rw [dif_pos hsequence, dif_pos hbinding, dif_pos hdigest, dif_pos hsorted, dif_pos hsafe,
    dif_pos hbounded]
  exact dif_pos hid

/-- The constructor accepts the fields of a trace that exists. -/
theorem CertificationTrace.build_eq_ok {rt : Runtime} (t : CertificationTrace rt) :
    build rt t.traceId t.runId t.scenario t.adapterBindingRef t.startedAt t.completedAt t.events = .ok t := by
  unfold build
  rw [dif_pos t.in_time, dif_pos t.nonempty, dif_pos t.contiguous, dif_pos t.scenarios,
    dif_pos t.bindings]
  exact dif_pos t.id_eq

/-! ## Decoding -/

namespace CertificationCodec

/-- `_text`. -/
def text (value : Fields) (key : String) : Except Exn String :=
  match value.get key with
  | some (.str item) =>
    if item = "" then .error ⟨.valueError, key ++ " must be non-empty text"⟩ else .ok item
  | _ => .error ⟨.valueError, key ++ " must be non-empty text"⟩

/-- `_optional_text`. -/
def optionalText (value : Fields) (key : String) : Except Exn (Option String) :=
  match value.get key with
  | none => .ok none
  | some .null => .ok none
  | some (.str item) =>
    if item = "" then .error ⟨.valueError, key ++ " must be non-empty text when present"⟩
    else .ok (some item)
  | _ => .error ⟨.valueError, key ++ " must be non-empty text when present"⟩

/-- `_integer`. -/
def integer (value : Fields) (key : String) : Except Exn Int :=
  match value.get key with
  | some (.int item) => .ok item
  | _ => .error ⟨.valueError, key ++ " must be an integer"⟩

/-- `_epoch`. -/
def epoch (value : Fields) (key : String) : Except Exn Instant := do
  fromTimestamp (← integer value key)

/-- `value.get("metadata", {})`, which must be an object. -/
def metadata (value : Fields) : Except Exn Fields :=
  match value.get "metadata" with
  | none => .ok []
  | some (.obj fields) => .ok fields
  | _ => .error ⟨.valueError, "certification event metadata must be an object"⟩

/-- `value.get("evidence_sha256")`, which must be text when present. -/
def evidence (value : Fields) : Except Exn (Option String) :=
  match value.get "evidence_sha256" with
  | none => .ok none
  | some .null => .ok none
  | some (.str item) => .ok (some item)
  | _ => .error ⟨.valueError, "certification event evidence hash must be text"⟩

variable (rt : Runtime)

/-- `_event`. -/
def event : Json → Except Exn (CertificationTraceEvent rt)
  | .obj value => do
    let fields ← metadata value
    let digest ← evidence value
    let eventId ← text value "event_id"
    let scenario ← CertificationScenario.ofValue (← text value "scenario")
    let eventType ← TraceEventType.ofValue (← text value "event_type")
    let occurredAt ← epoch value "occurred_at"
    let sequence ← integer value "sequence"
    let adapterBindingRef ← text value "adapter_binding_ref"
    let uttId ← optionalText value "utt_id"
    let rttId ← optionalText value "rtt_id"
    CertificationTraceEvent.build rt eventId scenario eventType occurredAt sequence adapterBindingRef
      uttId rttId digest (fields.map fun p => (p.1, rt.str p.2))
  | _ => .error ⟨.valueError, "certification event must be an object"⟩

/-- The items of `value.get("events")`, which must be an array. -/
def rawEvents (value : Fields) : Except Exn (List Json) :=
  match value.get "events" with
  | some (.arr items) => .ok items
  | _ => .error ⟨.valueError, "certification trace events must be an array"⟩

/-- `trace_from_payload`. -/
def traceFromPayload (value : Fields) : Except Exn (CertificationTrace rt) := do
  let events ← (← rawEvents value).mapM (event rt)
  let traceId ← text value "trace_id"
  let runId ← text value "run_id"
  let scenario ← CertificationScenario.ofValue (← text value "scenario")
  let adapterBindingRef ← text value "adapter_binding_ref"
  let startedAt ← epoch value "started_at"
  let completedAt ← epoch value "completed_at"
  CertificationTrace.build rt traceId runId scenario adapterBindingRef startedAt completedAt events

variable {rt}

theorem text_of_get {value : Fields} {key item : String} (h : value.get key = some (.str item)) :
    text value key = if item = "" then .error ⟨.valueError, key ++ " must be non-empty text"⟩
      else .ok item := by
  rw [text, h]

theorem text_eq_ok {value : Fields} {key item : String} (h : value.get key = some (.str item))
    (hne : item ≠ "") : text value key = .ok item := by
  rw [text_of_get h, if_neg hne]

theorem optionalText_eq_ok {value : Fields} {key : String} {item read : Option String}
    (h : value.get key = some (.ofOption item)) :
    optionalText value key = .ok read ↔ item ≠ some "" ∧ read = item := by
  cases item with
  | none =>
    rw [optionalText, h]
    simp [eq_comm]
  | some item =>
    rw [optionalText, h]
    by_cases hempty : item = "" <;> simp [hempty, eq_comm]

theorem evidence_eq_ok {value : Fields} {item : Option String}
    (h : value.get "evidence_sha256" = some (.ofOption item)) : evidence value = .ok item := by
  cases item <;> rw [evidence, h] <;> rfl

theorem epoch_of_get {value : Fields} {key : String} {n : Int} (h : value.get key = some (.int n)) :
    epoch value key = fromTimestamp n := by
  rw [epoch, integer, h]
  rfl

/-- The whole seconds of an instant are those of a year between 1 and 9999. -/
def Dated (t : Instant) : Prop := -62135596800 ≤ epochSeconds t ∧ epochSeconds t ≤ 253402300799

/-- An instant without its microseconds. -/
def cut (t : Instant) : Instant := seconds (epochSeconds t)

@[simp] theorem epochSeconds_cut (t : Instant) : epochSeconds (cut t) = epochSeconds t :=
  epochSeconds_seconds _

theorem fromTimestamp_epochSeconds {t u : Instant} :
    fromTimestamp (epochSeconds t) = .ok u ↔ Dated t ∧ u = cut t := by
  unfold fromTimestamp Dated cut
  generalize epochSeconds t = n
  constructor
  · intro h
    split_ifs at h with h₁ h₂ h₃
    simp only [Except.ok.injEq] at h
    refine ⟨by omega, h.symm⟩
  · rintro ⟨hdated, rfl⟩
    rw [if_neg (by omega), if_neg (by omega), if_neg (by omega)]

/-! ## What is read back -/

/-- An event at the whole second of its instant. -/
def cutEvent (e : CertificationTraceEvent rt) : CertificationTraceEvent rt where
  toTraceEventCore := { e.toTraceEventCore with occurredAt := cut e.occurredAt }
  eventId := e.eventId
  id_eq := by
    have hmaterial : ({ e.toTraceEventCore with occurredAt := cut e.occurredAt } :
        TraceEventCore).material = e.material := by
      simp only [TraceEventCore.material, epochSeconds_cut]
    rw [hmaterial]
    exact e.id_eq

theorem toPayload_cutEvent (e : CertificationTraceEvent rt) : (cutEvent e).toPayload = e.toPayload := by
  change Json.obj (_ :: TraceEventCore.material _) = .obj (_ :: e.material)
  simp only [cutEvent, TraceEventCore.material, epochSeconds_cut]

theorem sortPairs_of_sorted {l : List (String × String)} (h : l.Pairwise fun a b => a.1 < b.1) :
    sortPairs l = l :=
  (h.imp fun hlt => Or.inl hlt).insertionSort_eq

/-- An event can be read back when its optional identifiers are not empty and its year exists. -/
structure Readable (e : CertificationTraceEvent rt) : Prop where
  uttId : e.uttId ≠ some ""
  rttId : e.rttId ≠ some ""
  dated : Dated e.occurredAt

theorem scenario_value_ne_empty (s : CertificationScenario) : s.value ≠ "" := by
  cases s <;> decide

theorem eventType_value_ne_empty (kind : TraceEventType) : kind.value ≠ "" := by
  cases kind <;> decide

theorem bindingRef_ne_empty {s : String} (h : isBindingRef s = true) : s ≠ "" := by
  rintro rfl
  exact absurd h (by decide)

theorem contentId_ne_empty {tag id : String} {payload : Json} (h : rt.contentId tag payload = .ok id) :
    id ≠ "" := by
  obtain ⟨bytes, -, rfl⟩ := rt.contentId_eq_ok.mp h
  intro hempty
  have hlength := congrArg String.length hempty
  simp only [String.length_append] at hlength
  have hdash : "-".length = 1 := rfl
  have hzero : "".length = 0 := rfl
  omega

/-- Reading the payload of an event. -/
theorem event_toPayload {e d : CertificationTraceEvent rt} :
    event rt e.toPayload = .ok d ↔ Readable e ∧ d = cutEvent e := by
  have hmetadata : metadata (("event_id", .str e.eventId) :: e.material) =
      .ok (e.metadata.map fun p => (p.1, .str p.2)) := rfl
  have hevidence : evidence (("event_id", .str e.eventId) :: e.material) = .ok e.evidenceSha256 :=
    evidence_eq_ok rfl
  have hid : text (("event_id", .str e.eventId) :: e.material) "event_id" = .ok e.eventId :=
    text_eq_ok rfl (contentId_ne_empty e.id_eq)
  have hscenario : text (("event_id", .str e.eventId) :: e.material) "scenario" =
      .ok e.scenario.value := text_eq_ok rfl (scenario_value_ne_empty _)
  have hkind : text (("event_id", .str e.eventId) :: e.material) "event_type" =
      .ok e.eventType.value := text_eq_ok rfl (eventType_value_ne_empty _)
  have hepoch : epoch (("event_id", .str e.eventId) :: e.material) "occurred_at" =
      fromTimestamp (epochSeconds e.occurredAt) := epoch_of_get rfl
  have hsequence : integer (("event_id", .str e.eventId) :: e.material) "sequence" =
      .ok e.sequence := rfl
  have hbinding : text (("event_id", .str e.eventId) :: e.material) "adapter_binding_ref" =
      .ok e.adapterBindingRef := text_eq_ok rfl (bindingRef_ne_empty e.binding)
  have hutt (read : Option String) :
      optionalText (("event_id", .str e.eventId) :: e.material) "utt_id" = .ok read ↔
        e.uttId ≠ some "" ∧ read = e.uttId := optionalText_eq_ok rfl
  have hrtt (read : Option String) :
      optionalText (("event_id", .str e.eventId) :: e.material) "rtt_id" = .ok read ↔
        e.rttId ≠ some "" ∧ read = e.rttId := optionalText_eq_ok rfl
  have hpairs : ((e.metadata.map fun p => (p.1, Json.str p.2)).map fun p => (p.1, rt.str p.2)) =
      e.metadata := by
    rw [List.map_map]
    exact List.map_id _
  have hbuild := (cutEvent e).build_eq_ok (sortPairs_of_sorted e.sorted)
  rw [CertificationTraceEvent.toPayload]
  simp only [event, bind_eq_ok, hmetadata, hevidence, hid, hscenario, hkind, hepoch, hsequence,
    hbinding, hutt, hrtt, CertificationScenario.ofValue_value, TraceEventType.ofValue_value,
    fromTimestamp_epochSeconds, Except.ok.injEq, exists_eq_left', hpairs]
  constructor
  · rintro ⟨_, ⟨hdated, rfl⟩, _, ⟨hu, rfl⟩, _, ⟨hr, rfl⟩, hd⟩
    exact ⟨⟨hu, hr, hdated⟩, Except.ok.inj (hd.symm.trans hbuild)⟩
  · rintro ⟨⟨hu, hr, hdated⟩, rfl⟩
    exact ⟨_, ⟨hdated, rfl⟩, _, ⟨hu, rfl⟩, _, ⟨hr, rfl⟩, hbuild⟩

theorem map_toPayload_cutEvent (l : List (CertificationTraceEvent rt)) :
    (l.map cutEvent).map CertificationTraceEvent.toPayload = l.map CertificationTraceEvent.toPayload := by
  rw [List.map_map]
  exact List.map_congr_left fun e _ => toPayload_cutEvent e

/-- A trace at the whole seconds of its instants. -/
def cutTrace (t : CertificationTrace rt) : CertificationTrace rt where
  runId := t.runId
  scenario := t.scenario
  adapterBindingRef := t.adapterBindingRef
  startedAt := cut t.startedAt
  completedAt := cut t.completedAt
  events := t.events.map cutEvent
  in_time := Int.mul_le_mul_of_nonneg_right (epochSeconds_mono t.in_time) (by decide)
  nonempty := by simpa using t.nonempty
  contiguous := by
    rw [List.map_map, List.length_map]
    exact t.contiguous
  scenarios := by
    intro e he
    obtain ⟨e, hmem, rfl⟩ := List.mem_map.mp he
    exact t.scenarios e hmem
  bindings := by
    intro e he
    obtain ⟨e, hmem, rfl⟩ := List.mem_map.mp he
    exact t.bindings e hmem
  traceId := t.traceId
  id_eq := by
    simp only [TraceCore.material, epochSeconds_cut, map_toPayload_cutEvent]
    exact t.id_eq

theorem toPayload_cutTrace (t : CertificationTrace rt) : (cutTrace t).toPayload = t.toPayload := by
  simp only [CertificationTrace.toPayload, TraceCore.material, cutTrace, epochSeconds_cut,
    map_toPayload_cutEvent]

/-- Reading the payloads of events. -/
theorem mapM_event {l l' : List (CertificationTraceEvent rt)} :
    (l.map CertificationTraceEvent.toPayload).mapM (event rt) = .ok l' ↔
      (∀ e ∈ l, Readable e) ∧ l' = l.map cutEvent := by
  rw [mapM_eq_ok, List.forall₂_map_left_iff]
  simp only [event_toPayload]
  constructor
  · intro h
    induction h with
    | nil => exact ⟨fun e he => absurd he List.not_mem_nil, rfl⟩
    | cons hd _ ih =>
      obtain ⟨hreadable, rfl⟩ := hd
      obtain ⟨hrest, rfl⟩ := ih
      exact ⟨List.forall_mem_cons.mpr ⟨hreadable, hrest⟩, rfl⟩
  · rintro ⟨h, rfl⟩
    induction l with
    | nil => exact .nil
    | cons e l ih =>
      rw [List.forall_mem_cons] at h
      exact .cons ⟨h.1, rfl⟩ (ih h.2)

/-- A trace can be read back when its run has a name, its events can be read back and its years
exist. -/
structure ReadableTrace (t : CertificationTrace rt) : Prop where
  runId : t.runId ≠ ""
  events : ∀ e ∈ t.events, Readable e
  started : Dated t.startedAt
  completed : Dated t.completedAt

/-- Reading the payload of a trace. -/
theorem traceFromPayload_toPayload {t d : CertificationTrace rt} :
    traceFromPayload rt t.toPayload = .ok d ↔ ReadableTrace t ∧ d = cutTrace t := by
  have hevents : rawEvents t.toPayload = .ok (t.events.map CertificationTraceEvent.toPayload) := rfl
  have hid : text t.toPayload "trace_id" = .ok t.traceId :=
    text_eq_ok rfl (contentId_ne_empty t.id_eq)
  have hrun (read : String) : text t.toPayload "run_id" = .ok read ↔ t.runId ≠ "" ∧ read = t.runId := by
    have hget : t.toPayload.get "run_id" = some (.str t.runId) := rfl
    rw [text_of_get hget]
    by_cases hempty : t.runId = "" <;> simp [hempty, eq_comm]
  have hscenario : text t.toPayload "scenario" = .ok t.scenario.value :=
    text_eq_ok rfl (scenario_value_ne_empty _)
  have hbound : t.adapterBindingRef ≠ "" := by
    obtain ⟨e, he⟩ := List.exists_mem_of_ne_nil _ t.nonempty
    rw [← t.bindings e he]
    exact bindingRef_ne_empty e.binding
  have hbinding : text t.toPayload "adapter_binding_ref" = .ok t.adapterBindingRef :=
    text_eq_ok rfl hbound
  have hstarted : epoch t.toPayload "started_at" = fromTimestamp (epochSeconds t.startedAt) :=
    epoch_of_get rfl
  have hcompleted : epoch t.toPayload "completed_at" = fromTimestamp (epochSeconds t.completedAt) :=
    epoch_of_get rfl
  have hbuild := (cutTrace t).build_eq_ok
  simp only [traceFromPayload, bind_eq_ok, hevents, hid, hrun, hscenario, hbinding, hstarted,
    hcompleted, CertificationScenario.ofValue_value, fromTimestamp_epochSeconds, mapM_event,
    Except.ok.injEq, exists_eq_left']
  constructor
  · rintro ⟨_, ⟨hreadable, rfl⟩, _, ⟨hr, rfl⟩, _, ⟨hs, rfl⟩, _, ⟨hc, rfl⟩, hd⟩
    exact ⟨⟨hr, hreadable, hs, hc⟩, Except.ok.inj (hd.symm.trans hbuild)⟩
  · rintro ⟨⟨hr, hreadable, hs, hc⟩, rfl⟩
    exact ⟨_, ⟨hreadable, rfl⟩, _, ⟨hr, rfl⟩, _, ⟨hs, rfl⟩, _, ⟨hc, rfl⟩, hbuild⟩

end CertificationCodec

/-! ## Evaluating what is read back -/

namespace CertificationTraceEvaluator

open CertificationCodec

variable {rt : Runtime} (t : CertificationTrace rt)

/-- The message of the check on instants. -/
def notMonotonic : String := "event timestamps are not monotonic"

/-- The events are in the order of their instants. -/
def InOrder : Prop := (t.events.map fun e => e.occurredAt).Pairwise (· ≤ ·)

/-- The events are in the order of their whole seconds. -/
def SecondsInOrder : Prop := (t.events.map fun e => epochSeconds e.occurredAt).Pairwise (· ≤ ·)

@[simp] theorem count_cutTrace (kind : TraceEventType) : count (cutTrace t) kind = count t kind := by
  change (t.events.map cutEvent).countP _ = _
  rw [List.countP_map]
  rfl

@[simp] theorem first_cutTrace (kind : TraceEventType) : first (cutTrace t) kind = first t kind := by
  change (((t.events.map cutEvent).find? _).map _).getD 0 = _
  rw [List.find?_map, Option.map_map]
  rfl

@[simp] theorem scopes_cutTrace : scopes (cutTrace t) = scopes t := by
  change ((t.events.map cutEvent).filter _).map _ = _
  rw [List.filter_map, List.map_map]
  rfl

theorem eq_insertionSort_iff {l : List Instant} : l = l.insertionSort (· ≤ ·) ↔ l.Pairwise (· ≤ ·) := by
  constructor
  · intro h
    rw [h]
    exact List.pairwise_insertionSort (· ≤ ·) l
  · intro h
    exact h.insertionSort_eq.symm

theorem instants_cutTrace : (cutTrace t).events.map (fun e => e.occurredAt) =
    (t.events.map fun e => epochSeconds e.occurredAt).map seconds := by
  change (t.events.map cutEvent).map _ = _
  rw [List.map_map, List.map_map]
  rfl

theorem inOrder_cutTrace : InOrder (cutTrace t) ↔ SecondsInOrder t := by
  have hscale (a b : ℤ) : seconds a ≤ seconds b ↔ a ≤ b := by
    unfold seconds
    omega
  rw [InOrder, instants_cutTrace, List.pairwise_map]
  simp only [hscale]
  rfl

variable {t} in
/-- Events in the order of their instants are in the order of their seconds. -/
theorem SecondsInOrder.of_inOrder (h : InOrder t) : SecondsInOrder t := by
  rw [InOrder, List.pairwise_map] at h
  rw [SecondsInOrder, List.pairwise_map]
  exact h.imp fun hle => epochSeconds_mono hle

/-- When the check on instants agrees, all checks do. -/
theorem failures_cutTrace (h : SecondsInOrder t → InOrder t) : failures (cutTrace t) = failures t := by
  have hinstants : ((cutTrace t).events.map (fun e => e.occurredAt) ≠
        ((cutTrace t).events.map fun e => e.occurredAt).insertionSort (· ≤ ·)) ↔
      (t.events.map (fun e => e.occurredAt) ≠
        (t.events.map fun e => e.occurredAt).insertionSort (· ≤ ·)) := by
    rw [Ne, Ne, eq_insertionSort_iff, eq_insertionSort_iff, not_iff_not]
    exact (inOrder_cutTrace t).trans ⟨h, SecondsInOrder.of_inOrder⟩
  have hutt : (cutTrace t).events.filterMap (fun e => e.uttId) = t.events.filterMap fun e => e.uttId :=
    List.filterMap_map
  have hrtt : (cutTrace t).events.filterMap (fun e => e.rttId) = t.events.filterMap fun e => e.rttId :=
    List.filterMap_map
  have hids : (cutTrace t).events.map (fun e => e.eventId) = t.events.map fun e => e.eventId :=
    List.map_map
  have hlength : (cutTrace t).events.length = t.events.length := List.length_map _
  have hevidence : (∃ e ∈ (cutTrace t).events, e.eventType = .externalEvidenceVerified ∧
        e.evidenceSha256 = none) ↔
      ∃ e ∈ t.events, e.eventType = .externalEvidenceVerified ∧ e.evidenceSha256 = none := by
    change (∃ e ∈ t.events.map cutEvent, _) ↔ _
    simp only [List.mem_map, exists_exists_and_eq_and]
    rfl
  have hscenario : (cutTrace t).scenario = t.scenario := rfl
  simp only [failures, globalInvariants, hscenario, count_cutTrace, first_cutTrace, scopes_cutTrace,
    hutt, hrtt, hids, hlength, hinstants, hevidence]

theorem mem_failIf {p : Prop} [Decidable p] {message m : String} :
    m ∈ failIf p message ↔ p ∧ m = message := by
  unfold failIf
  split <;> simp_all

/-- A message with a colon is not the one of the check on instants. -/
theorem notMonotonic_ne {message : String} (h : ':' ∈ message.toList) : notMonotonic ≠ message := by
  rintro rfl
  revert h
  decide

/-- The message about instants appears exactly when the events are out of order. -/
theorem notMonotonic_mem_failures : notMonotonic ∈ failures t ↔ ¬ InOrder t := by
  have hexact (a b c : String) : notMonotonic ≠ a ++ ": expected exactly " ++ b ++ ", observed " ++ c :=
    notMonotonic_ne (by simp)
  have hminimum (a b c : String) : notMonotonic ≠ a ++ ": expected at least " ++ b ++ ", observed " ++ c :=
    notMonotonic_ne (by simp)
  have hforbidden (a : String) : notMonotonic ≠ a ++ ": forbidden event observed" :=
    notMonotonic_ne (by simp)
  have hordered (a b : String) : notMonotonic ≠ "event order violated: " ++ a ++ " must precede " ++ b :=
    notMonotonic_ne (by simp)
  have hscope (a : String) : notMonotonic ≠ "history scope was not exercised: " ++ a :=
    notMonotonic_ne (by simp)
  have hinstants : (t.events.map (fun e => e.occurredAt) ≠
      (t.events.map fun e => e.occurredAt).insertionSort (· ≤ ·)) ↔ ¬ InOrder t :=
    not_congr eq_insertionSort_iff
  simp only [failures, globalInvariants, List.mem_append, List.mem_flatMap, mem_failIf, hexact,
    hminimum, hforbidden, hordered, hscope, hinstants, and_false, exists_const]
  unfold notMonotonic
  simp

/-- The verdict on the trace read back is the one on the trace exactly when events that are out of
order are so by whole seconds. -/
theorem evaluate_cutTrace : evaluate (cutTrace t) = evaluate t ↔ (SecondsInOrder t → InOrder t) := by
  constructor
  · intro h hseconds
    have hmem : notMonotonic ∈ failures (cutTrace t) ↔ notMonotonic ∈ failures t := by
      have hevaluate := congrArg (notMonotonic ∈ ·) h
      simpa only [evaluate, List.mem_insertionSort, List.mem_dedup, eq_iff_iff] using hevaluate
    rw [notMonotonic_mem_failures, notMonotonic_mem_failures, not_iff_not, inOrder_cutTrace] at hmem
    exact hmem.mp hseconds
  · intro h
    rw [evaluate, evaluate, failures_cutTrace t h]

end CertificationTraceEvaluator

namespace CertificationCodec

open CertificationTraceEvaluator

variable {rt : Runtime}

/-- A trace can be read back from its payload, with the verdict and the payload of the original. -/
def MeaningKept (t : CertificationTrace rt) : Prop :=
  ∃ read, traceFromPayload rt t.toPayload = .ok read ∧ evaluate read = evaluate t ∧
    read.toPayload = t.toPayload

/-- The codec keeps the meaning of exactly the traces whose run and present identifiers are not empty,
whose seconds lie in the years 1 to 9999, and whose events are out of order only if they are so by
whole seconds.  Among these traces, a payload has one verdict. -/
theorem codec_keeps_meaning_iff :
    (∀ t : CertificationTrace rt, MeaningKept t ↔
      ReadableTrace t ∧ (SecondsInOrder t → InOrder t)) ∧
    ∀ t u : CertificationTrace rt, MeaningKept t → MeaningKept u → t.toPayload = u.toPayload →
      evaluate t = evaluate u := by
  refine ⟨fun t => ⟨?_, ?_⟩, ?_⟩
  · rintro ⟨read, hread, hevaluate, -⟩
    obtain ⟨hreadable, rfl⟩ := traceFromPayload_toPayload.mp hread
    exact ⟨hreadable, (evaluate_cutTrace t).mp hevaluate⟩
  · rintro ⟨hreadable, horder⟩
    exact ⟨cutTrace t, traceFromPayload_toPayload.mpr ⟨hreadable, rfl⟩,
      (evaluate_cutTrace t).mpr horder, toPayload_cutTrace t⟩
  · rintro t u ⟨read, hread, hevaluate, -⟩ ⟨read', hread', hevaluate', -⟩ hpayload
    rw [hpayload] at hread
    obtain rfl := Except.ok.inj (hread.symm.trans hread')
    rw [← hevaluate, hevaluate']

/-- An event of the sample at the given instant. -/
def timedEvent (i : ℕ) (instant : Instant) : CertificationTraceEvent Sample.exactRuntime :=
  .create _ { (rowEvent Sample.exactRuntime .duplicateSubmission i (.intentAccepted, none)).toTraceEventCore
    with occurredAt := instant }

/-- Two events, 0.9 and 0.2 seconds after the tenth second. -/
def swappedTrace : CertificationTrace Sample.exactRuntime :=
  .create
    { runId := "RUN-1"
      scenario := .duplicateSubmission
      adapterBindingRef := "railone.reference@1.0.0"
      startedAt := 10000000
      completedAt := 11000000
      events := [timedEvent 0 10900000, timedEvent 1 10200000]
      in_time := by decide
      nonempty := by simp
      contiguous := rfl
      scenarios := by simp [timedEvent, CertificationTraceEvent.create, rowEvent]
      bindings := by simp [timedEvent, CertificationTraceEvent.create, rowEvent] }

/-- The two events are out of order, and are in order once they are read back. -/
theorem swapped_events_read_in_order :
    (∃ read, traceFromPayload Sample.exactRuntime swappedTrace.toPayload = .ok read ∧
      notMonotonic ∈ evaluate swappedTrace ∧ notMonotonic ∉ evaluate read) ∧
    ¬ MeaningKept swappedTrace := by
  have hmem (t : CertificationTrace Sample.exactRuntime) : notMonotonic ∈ evaluate t ↔ ¬ InOrder t := by
    rw [evaluate, List.mem_insertionSort, List.mem_dedup, notMonotonic_mem_failures]
  have hout : ¬ InOrder swappedTrace := by
    have hinstants : ¬ [(10900000 : Instant), 10200000].Pairwise (· ≤ ·) := by decide
    exact hinstants
  have hseconds : SecondsInOrder swappedTrace := by
    have hwhole : [epochSeconds 10900000, epochSeconds 10200000].Pairwise (· ≤ ·) := by decide +kernel
    exact hwhole
  have hreadable : ReadableTrace swappedTrace := by
    have hdated : ∀ instant ∈ [(10000000 : Instant), 11000000, 10900000, 10200000],
        -62135596800 ≤ epochSeconds instant ∧ epochSeconds instant ≤ 253402300799 := by decide +kernel
    refine ⟨by decide, ?_, hdated 10000000 (by simp), hdated 11000000 (by simp)⟩
    intro e he
    have hmem : e = timedEvent 0 10900000 ∨ e = timedEvent 1 10200000 := by
      simpa [swappedTrace, CertificationTrace.create] using he
    rcases hmem with rfl | rfl
    · exact ⟨by rintro ⟨⟩, by rintro ⟨⟩, hdated 10900000 (by simp)⟩
    · exact ⟨by rintro ⟨⟩, by rintro ⟨⟩, hdated 10200000 (by simp)⟩
  have hread := traceFromPayload_toPayload.mpr ⟨hreadable, rfl⟩
  refine ⟨⟨cutTrace swappedTrace, hread, (hmem _).mpr hout, ?_⟩, ?_⟩
  · rw [hmem, not_not, inOrder_cutTrace]
    exact hseconds
  · rintro ⟨read, hread', hevaluate, -⟩
    obtain rfl := Except.ok.inj (hread.symm.trans hread')
    exact hout ((evaluate_cutTrace swappedTrace).mp hevaluate hseconds)

end CertificationCodec

end RailOne
