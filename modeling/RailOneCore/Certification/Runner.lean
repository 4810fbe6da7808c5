import RailOneCore.Certification.Evaluator
import RailOneCore.Crypto.SignatureService

/-!
# Certification runs

The runner asks an untrusted driver for one trace per scenario of a suite, records and evaluates each
trace and collects the results in a report; the coordinator runs it for a signed manifest and signs
the report.

The driver may answer with any well-formed trace.  The runner compares the run and the adapter version
of the trace with its own, but not the scenario, while the evaluator takes its expectations from the
trace.
-/

namespace RailOne

open Ordered

/-! ## Reports -/

inductive CaseStatus
  | passed | failed | error
  deriving DecidableEq, Repr

def CaseStatus.value : CaseStatus → String
  | .passed => "PASSED"
  | .failed => "FAILED"
  | .error => "ERROR"

inductive CertificationStatus
  | passed | failed
  deriving DecidableEq, Repr

def CertificationStatus.value : CertificationStatus → String
  | .passed => "PASSED"
  | .failed => "FAILED"

inductive EvidenceClassification
  | syntheticSelfTest | partnerSandbox
  deriving DecidableEq, Repr

def EvidenceClassification.value : EvidenceClassification → String
  | .syntheticSelfTest => "SYNTHETIC_SELF_TEST"
  | .partnerSandbox => "PARTNER_SANDBOX"

/-- The result of a case.  A case passes exactly when it has no failures. -/
structure CertificationCaseResult where
  scenario : CertificationScenario
  status : CaseStatus
  traceId : Option String
  failures : List String
  durationMs : ℕ
  eventCount : ℕ
  passed_iff : status = .passed ↔ failures = []
  deriving DecidableEq

/-- `CertificationCaseResult.to_payload`. -/
def CertificationCaseResult.toPayload (c : CertificationCaseResult) : Json :=
  .obj [("scenario", .str c.scenario.value), ("status", .str c.status.value),
    ("trace_id", .ofOption c.traceId), ("failures", .arr (c.failures.map .str)),
    ("duration_ms", .int c.durationMs), ("event_count", .int c.eventCount)]

/-- The status that the results of the cases give. -/
def statusOf (cases : List CertificationCaseResult) : CertificationStatus :=
  if ∀ c ∈ cases, c.status = .passed then .passed else .failed

/-- What a report says, with what its constructor checks. -/
structure ReportCore where
  runId : String
  suiteId : String
  suiteVersion : String
  adapterBindingRef : String
  manifestPayloadSha256 : String
  evidenceClassification : EvidenceClassification
  status : CertificationStatus
  cases : List CertificationCaseResult
  startedAt : Instant
  completedAt : Instant
  in_time : startedAt ≤ completedAt
  binding : isBindingRef adapterBindingRef = true
  digest : InstitutionExecutionInstruction.isDigest manifestPayloadSha256 = true
  nonempty : cases ≠ []
  unique : (cases.map fun c => c.scenario).Nodup
  status_eq : status = statusOf cases

/-- The fields of two reports that are data agree. -/
def ReportCore.Same (r s : ReportCore) : Prop :=
  r.runId = s.runId ∧ r.suiteId = s.suiteId ∧ r.suiteVersion = s.suiteVersion ∧
    r.adapterBindingRef = s.adapterBindingRef ∧ r.manifestPayloadSha256 = s.manifestPayloadSha256 ∧
    r.evidenceClassification = s.evidenceClassification ∧ r.status = s.status ∧ r.cases = s.cases ∧
    r.startedAt = s.startedAt ∧ r.completedAt = s.completedAt

theorem ReportCore.same_iff {r s : ReportCore} : r.Same s ↔ r = s := by
  rw [ReportCore.Same, ReportCore.mk.injEq]

instance (r s : ReportCore) : Decidable (r.Same s) :=
  inferInstanceAs (Decidable (_ ∧ _))

instance : DecidableEq ReportCore := fun _ _ => decidable_of_iff _ ReportCore.same_iff

/-- The material of the identifier of a report. -/
def ReportCore.material (r : ReportCore) : Fields :=
  [("run_id", .str r.runId), ("suite_id", .str r.suiteId), ("suite_version", .str r.suiteVersion),
    ("adapter_binding_ref", .str r.adapterBindingRef),
    ("manifest_payload_sha256", .str r.manifestPayloadSha256),
    ("evidence_classification", .str r.evidenceClassification.value),
    ("status", .str r.status.value),
    ("cases", .arr (r.cases.map CertificationCaseResult.toPayload)),
    ("started_at", .int (epochSeconds r.startedAt)),
    ("completed_at", .int (epochSeconds r.completedAt))]

/-- `CertificationReport`. -/
structure CertificationReport (rt : Runtime) extends ReportCore where
  reportId : String
  id_eq : rt.contentId "CERT-REPORT" (.obj toReportCore.material) = .ok reportId
  deriving DecidableEq

/-- `CertificationReport.to_payload`. -/
def CertificationReport.toPayload {rt : Runtime} (r : CertificationReport rt) : Fields :=
  ("report_id", .str r.reportId) :: r.material

/-! ## Suites -/

/-- `CertificationSuite`. -/
structure CertificationSuite where
  suiteId : String
  suiteVersion : String
  scenarios : List CertificationScenario
  perCaseTimeoutSeconds : ℕ := 30

/-- Equality of the sets of two lists. -/
def sameSet (l l' : List String) : Bool := l.all (l'.contains ·) && l'.all (l.contains ·)

namespace CertificationSuite

/-- `pilot_v1`. -/
def pilotV1 : CertificationSuite where
  suiteId := "RAILONE-PARTNER-PILOT"
  suiteVersion := "1.0.0"
  scenarios := [.p2pSettled, .merchantSupplierSettled, .crossBorderSettled, .duplicateSubmission,
    .unknownThenReconciled, .tamperedCallbackRejected, .duplicateCallbackExactlyOnce,
    .settlementAmountMismatchRejected, .historyAccessControl, .smsFinalityGate, .adapterVersionPin]

/-- `for_manifest`. -/
def forManifest (m : InstitutionCapabilityManifest) : Except Exn CertificationSuite :=
  if ¬ (m.supportsCallbacks || m.supportsActiveStatus || m.supportsReconciliation) then
    .error ⟨.valueError, "pilot certification requires an external finality evidence path"⟩
  else .ok
    { suiteId := "RAILONE-PARTNER-PILOT"
      suiteVersion := "1.0.0"
      scenarios := [.p2pSettled, .merchantSupplierSettled, .historyAccessControl, .smsFinalityGate,
          .adapterVersionPin, .duplicateSubmission] ++
        (if sameSet m.sourceCountries m.destinationCountries ∧
            sameSet m.currenciesFrom m.currenciesTo then [] else [.crossBorderSettled]) ++
        (if m.supportsActiveStatus || m.supportsReconciliation then [.unknownThenReconciled]
          else []) ++
        (if m.supportsCallbacks then [.tamperedCallbackRejected, .duplicateCallbackExactlyOnce,
          .settlementAmountMismatchRejected] else []) }

end CertificationSuite

/-! ## Drivers and recorders -/

/-- `PartnerCertificationDriver`: any code that keeps a state of its own and answers a scenario with a
trace or an exception. -/
structure PartnerCertificationDriver (rt : Runtime) (S : Type) where
  adapterBindingRef : String
  evidenceClassification : EvidenceClassification
  executeCase : S → String → CertificationScenario → Except Exn (CertificationTrace rt) × S

/-- `CertificationRunRecorder`. -/
structure CertificationRunRecorder (rt : Runtime) (R : Type) where
  begin : R → String → String → String → CertificationSuite → Instant → Except Exn R
  recordTrace : R → CertificationTrace rt → Except Exn R
  complete : R → CertificationReport rt → Except Exn R

/-- No recorder. -/
def CertificationRunRecorder.silent (rt : Runtime) : CertificationRunRecorder rt Unit where
  begin := fun _ _ _ _ _ _ => .ok ()
  recordTrace := fun _ _ => .ok ()
  complete := fun _ _ => .ok ()

/-- What `InMemoryCertificationRunRecorder` keeps of a run. -/
structure RecordedRun where
  adapterBindingRef : String
  manifestPayloadSha256 : String
  suiteId : String
  suiteVersion : String
  startedAt : Instant
  status : String
  reportId : Option String
  completedAt : Option Instant
  deriving DecidableEq, Repr

/-- The state of `InMemoryCertificationRunRecorder`. -/
structure RunRecords (rt : Runtime) where
  runs : Dict String RecordedRun
  traces : Dict (String × CertificationScenario) (CertificationTrace rt)

/-- `InMemoryCertificationRunRecorder`. -/
def CertificationRunRecorder.inMemory (rt : Runtime) :
    CertificationRunRecorder rt (RunRecords rt) where
  begin := fun st runId adapterBindingRef manifestPayloadSha256 suite startedAt =>
    let material : RecordedRun := ⟨adapterBindingRef, manifestPayloadSha256, suite.suiteId,
      suite.suiteVersion, startedAt, "RUNNING", none, none⟩
    match st.runs.get? runId with
    | some existing =>
      if existing ≠ material then
        .error ⟨.runtimeError, "certification run immutability conflict"⟩
      else .error ⟨.runtimeError, "certification run has already started"⟩
    | none => .ok { st with runs := st.runs.set runId material }
  recordTrace := fun st trace =>
    match st.runs.get? trace.runId with
    | none => .error ⟨.runtimeError, "certification trace has no active run"⟩
    | some _ =>
      match st.traces.get? (trace.runId, trace.scenario) with
      | some existing =>
        if existing ≠ trace then
          .error ⟨.runtimeError, "certification trace immutability conflict"⟩
        else .ok { st with traces := st.traces.set (trace.runId, trace.scenario) trace }
      | none => .ok { st with traces := st.traces.set (trace.runId, trace.scenario) trace }
  complete := fun st report =>
    match st.runs.get? report.runId with
    | none => .error ⟨.runtimeError, "certification run is not active"⟩
    | some run =>
      if run.status ≠ "RUNNING" then .error ⟨.runtimeError, "certification run is not active"⟩
      else .ok
        { st with
          runs := st.runs.set report.runId
            { run with
              status := report.status.value
              reportId := some report.reportId
              completedAt := some report.completedAt } }

/-! ## The runner -/

namespace CertificationRunner

variable {rt : Runtime} {S R : Type} (driver : PartnerCertificationDriver rt S)
  (recorder : CertificationRunRecorder rt R)

/-- The readings of the clocks in a run: how long each case took, until it was evaluated or until its
exception was caught, and the time at the end. -/
structure Readings where
  caseMs : ℕ → ℕ
  errorMs : ℕ → ℕ
  now : Instant

/-- `t.replace(microsecond=0)`. -/
def wholeSecond (t : Instant) : Instant := t - t % 1000000

/-- The failures of a case: those of the evaluator and those that the runner adds. -/
def caseFailures (runId : String) (suite : CertificationSuite) (durationMs : ℕ)
    (trace : CertificationTrace rt) : List String :=
  CertificationTraceEvaluator.evaluate trace ++
  CertificationTraceEvaluator.failIf (trace.runId ≠ runId)
    "trace run_id does not match certification run" ++
  CertificationTraceEvaluator.failIf (trace.adapterBindingRef ≠ driver.adapterBindingRef)
    "driver changed adapter binding" ++
  CertificationTraceEvaluator.failIf (suite.perCaseTimeoutSeconds * 1000 < durationMs)
    "certification case exceeded its execution timeout"

/-- The result of a case with a trace. -/
def tracedCase (runId : String) (suite : CertificationSuite) (scenario : CertificationScenario)
    (durationMs : ℕ) (trace : CertificationTrace rt) : CertificationCaseResult where
  scenario
  status := if caseFailures driver runId suite durationMs trace = [] then .passed else .failed
  traceId := some trace.traceId
  failures := (caseFailures driver runId suite durationMs trace).dedup.insertionSort (· ≤ ·)
  durationMs
  eventCount := trace.events.length
  passed_iff := by
    rw [← List.length_eq_zero_iff (l := List.insertionSort _ _), List.length_insertionSort,
      List.length_eq_zero_iff, List.dedup_eq_nil]
    split <;> simp_all

/-- The result of a case that raised. -/
def erroredCase (scenario : CertificationScenario) (durationMs : ℕ) (exn : Exn) :
    CertificationCaseResult where
  scenario
  status := .error
  traceId := none
  failures := [exn.className ++ ": certification case execution failed"]
  durationMs
  eventCount := 0
  passed_iff := by simp

/-- One case, from the driver's answer on. -/
def evaluateCase (readings : Readings) (runId : String) (suite : CertificationSuite) (i : ℕ)
    (scenario : CertificationScenario) (answer : Except Exn (CertificationTrace rt)) (records : R) :
    CertificationCaseResult × R :=
  match answer with
  | .error exn => (erroredCase scenario (readings.errorMs i) exn, records)
  | .ok trace =>
    match recorder.recordTrace records trace with
    | .error exn => (erroredCase scenario (readings.errorMs i) exn, records)
    | .ok records => (tracedCase driver runId suite scenario (readings.caseMs i) trace, records)

/-- The driver's answers to a list of scenarios, one after another. -/
def answers (runId : String) : S → List CertificationScenario →
    List (Except Exn (CertificationTrace rt))
  | _, [] => []
  | state, scenario :: scenarios =>
    let (answer, state) := driver.executeCase state runId scenario
    answer :: answers runId state scenarios

/-- The loop over the scenarios, from the `i`-th case on. -/
def runCases (readings : Readings) (runId : String) (suite : CertificationSuite) :
    ℕ → S → R → List CertificationScenario → List CertificationCaseResult × R
  | _, _, records, [] => ([], records)
  | i, state, records, scenario :: scenarios =>
    let (answer, state) := driver.executeCase state runId scenario
    let (case, records) :=
      evaluateCase driver recorder readings runId suite i scenario answer records
    let (cases, records) := runCases readings runId suite (i + 1) state records scenarios
    (case :: cases, records)

theorem accepted_material (r : ReportCore) : CanonicalJson.AcceptedFields r.material := by
  have hitems : ∀ l : List String, CanonicalJson.AcceptedItems (l.map Json.str) := by
    intro l
    induction l with
    | nil => trivial
    | cons _ _ ih => exact ⟨trivial, ih⟩
  have hcases : CanonicalJson.AcceptedItems (r.cases.map CertificationCaseResult.toPayload) := by
    induction r.cases with
    | nil => trivial
    | cons c l ih =>
      have htrace : CanonicalJson.Accepted (Json.ofOption c.traceId) := by
        cases c.traceId <;> trivial
      exact ⟨⟨trivial, trivial, htrace, hitems _, trivial, trivial, trivial⟩, ih⟩
  exact ⟨trivial, trivial, trivial, trivial, trivial, trivial, trivial, hcases, trivial, trivial,
    trivial⟩

/-- The report on the cases of a run; its constructor refuses unnamed adapter versions, malformed
digests and repeated or missing cases. -/
def buildReport (runId : String) (manifestPayloadSha256 : String) (suite : CertificationSuite)
    (cases : List CertificationCaseResult) (start now : Instant) :
    Except Exn (CertificationReport rt) :=
  if hbinding : isBindingRef driver.adapterBindingRef = true then
    if hdigest : InstitutionExecutionInstruction.isDigest manifestPayloadSha256 = true then
      if hcases : cases ≠ [] ∧ (cases.map fun c => c.scenario).Nodup then
        .ok
          { runId
            suiteId := suite.suiteId
            suiteVersion := suite.suiteVersion
            adapterBindingRef := driver.adapterBindingRef
            manifestPayloadSha256
            evidenceClassification := driver.evidenceClassification
            status := statusOf cases
            cases
            startedAt := start
            completedAt := max (wholeSecond now) start
            in_time := le_max_right _ _
            binding := hbinding
            digest := hdigest
            nonempty := hcases.1
            unique := hcases.2
            status_eq := rfl
            reportId := _
            id_eq := rt.contentId_of_accepted "CERT-REPORT" (accepted_material _) }
      else .error ⟨.valueError, "certification report requires unique case results"⟩
    else .error ⟨.valueError, "manifest_payload_sha256 must be a lowercase SHA-256 digest"⟩
  else .error ⟨.valueError, "certification report requires adapter_id@semantic-version"⟩

/-- `run`, from the state of the driver and of the recorder. -/
def run (readings : Readings) (runId manifestPayloadSha256 : String) (suite : CertificationSuite)
    (at_ : Instant) (state : S) (records : R) : Except Exn (CertificationReport rt × R) := do
  let start := wholeSecond at_
  let records ← recorder.begin records runId driver.adapterBindingRef manifestPayloadSha256 suite start
  let (cases, records) :=
    runCases driver recorder readings runId suite 0 state records suite.scenarios
  let report ← buildReport driver runId manifestPayloadSha256 suite cases start readings.now
  let records ← recorder.complete records report
  return (report, records)

end CertificationRunner

/-! ## The coordinator -/

/-- `SignedCapabilityManifest`. -/
structure SignedCapabilityManifest where
  manifest : InstitutionCapabilityManifest
  signature : SignatureEnvelope

/-- `SignedCertificationReport`. -/
structure SignedCertificationReport (rt : Runtime) where
  report : CertificationReport rt
  signature : SignatureEnvelope
  deriving DecidableEq

namespace PartnerCertificationCoordinator

variable (rt : Runtime) (keys : KeyProvider)

/-- `CapabilityManifestSigner.verify`. -/
def verifyManifest (signed : SignedCapabilityManifest) : Except Exn Unit := do
  let check ← SignatureService.verifyArtifact rt keys signed.signature
    (some .institutionCapabilityManifest) false
  require (check.valid = true)
    ⟨.permissionError, "capability manifest signature rejected: " ++ check.reason⟩
  require ((Json.obj signed.signature.payload).comparable =
      (Json.obj signed.manifest.payload).comparable)
    ⟨.permissionError, "capability manifest object does not match signed payload"⟩
  let signedAt ← fromTimestamp (← (← signed.signature.header.item "iat").toInt)
  require (signed.manifest.issuedAt ≤ signedAt ∧ signedAt < signed.manifest.expiresAt)
    ⟨.permissionError, "capability manifest signature is outside its validity window"⟩

/-- `InstitutionCapabilityManifest.is_active_at`. -/
def isActiveAt (m : InstitutionCapabilityManifest) (instant : Instant) : Bool :=
  m.issuedAt ≤ instant && instant < m.expiresAt && m.certificationStatus != .suspended

/-- `CertificationReportService.sign_and_commit`, over the reports that are stored. -/
def signAndCommit {rt : Runtime} (keys : KeyProvider) (signingKeyId : String)
    (stored : Dict String (SignedCertificationReport rt)) (report : CertificationReport rt)
    (at_ : Instant) :
    Except Exn (SignedCertificationReport rt × Dict String (SignedCertificationReport rt)) := do
  require (report.evidenceClassification ≠ .syntheticSelfTest)
    ⟨.permissionError, "synthetic self-test reports cannot be signed as partner evidence"⟩
  let envelope ← SignatureService.signArtifact rt keys .partnerCertificationReport report.toPayload
    signingKeyId at_
  let signed : SignedCertificationReport rt := ⟨report, envelope⟩
  match stored.get? report.reportId with
  | some existing =>
    if existing ≠ signed then
      .error ⟨.runtimeError, "certification report immutability conflict"⟩
    else return (signed, stored.set report.reportId signed)
  | none => return (signed, stored.set report.reportId signed)

/-- `certify`. -/
def certify {rt : Runtime} {S R : Type} (keys : KeyProvider) (signingKeyId : String)
    (driver : PartnerCertificationDriver rt S) (recorder : CertificationRunRecorder rt R)
    (readings : CertificationRunner.Readings) (runId : String) (signed : SignedCapabilityManifest)
    (instant : Instant) (state : S) (records : R)
    (stored : Dict String (SignedCertificationReport rt)) :
    Except Exn (SignedCertificationReport rt × R × Dict String (SignedCertificationReport rt)) := do
  verifyManifest rt keys signed
  require (isActiveAt signed.manifest instant = true)
    ⟨.permissionError, "inactive adapter manifest cannot be certified"⟩
  require (signed.manifest.certificationStatus = .conformance ∨
      signed.manifest.certificationStatus = .certified)
    ⟨.permissionError, "adapter manifest is not eligible for certification"⟩
  require (driver.adapterBindingRef = signed.manifest.descriptor.bindingRef)
    ⟨.permissionError, "certification driver does not match the signed adapter version"⟩
  require (driver.evidenceClassification = .partnerSandbox)
    ⟨.permissionError, "authoritative certification requires partner sandbox evidence"⟩
  let manifestSha256 ← (← signed.signature.header.item "payload_sha256").asStr
  let suite ← CertificationSuite.forManifest signed.manifest
  let (report, records) ← CertificationRunner.run driver recorder readings runId manifestSha256 suite
    instant state records
  let (signedReport, stored) ← signAndCommit keys signingKeyId stored report report.completedAt
  return (signedReport, records, stored)

theorem report_of_signAndCommit {rt : Runtime} {keys : KeyProvider} {signingKeyId : String}
    {stored stored' : Dict String (SignedCertificationReport rt)} {report : CertificationReport rt}
    {at_ : Instant} {signed : SignedCertificationReport rt}
    (h : signAndCommit keys signingKeyId stored report at_ = .ok (signed, stored')) :
    signed.report = report := by
  simp only [signAndCommit, bind_eq_ok] at h
  obtain ⟨_, _, envelope, _, h⟩ := h
  split at h
  · split_ifs at h
    cases h
    rfl
  · cases h
    rfl

/-- The report that is signed is the report of the run. -/
theorem run_of_certify {rt : Runtime} {S R : Type} {keys : KeyProvider} {signingKeyId : String}
    {driver : PartnerCertificationDriver rt S} {recorder : CertificationRunRecorder rt R}
    {readings : CertificationRunner.Readings} {runId : String} {signed : SignedCapabilityManifest}
    {instant : Instant} {state : S} {records records' : R}
    {stored stored' : Dict String (SignedCertificationReport rt)}
    {signedReport : SignedCertificationReport rt}
    (h : certify keys signingKeyId driver recorder readings runId signed instant state records stored =
      .ok (signedReport, records', stored')) :
    ∃ sha256 suite, CertificationSuite.forManifest signed.manifest = .ok suite ∧
      CertificationRunner.run driver recorder readings runId sha256 suite instant state records =
        .ok (signedReport.report, records') := by
  simp only [certify, bind_eq_ok, pure_eq_ok, Prod.mk.injEq] at h
  obtain ⟨_, _, _, _, _, _, _, _, _, _, _, _, sha256, _, suite, hsuite, ⟨report, records''⟩, hrun,
    ⟨signedReport', stored''⟩, hsign, rfl, rfl, rfl⟩ := h
  exact ⟨sha256, suite, hsuite, (report_of_signAndCommit hsign).symm ▸ hrun⟩

end PartnerCertificationCoordinator

/-! ## What a passed report says -/

namespace CertificationRunner

open CertificationTraceEvaluator (evaluate failIf_eq_nil)

variable {rt : Runtime} {S R : Type} {driver : PartnerCertificationDriver rt S}
  {recorder : CertificationRunRecorder rt R}

/-- A case that passed has a trace of the run and of the adapter version, without failures, and
records its identifier and its length. -/
def PassedOn (driver : PartnerCertificationDriver rt S) (runId : String)
    (answer : Except Exn (CertificationTrace rt)) (case : CertificationCaseResult) : Prop :=
  ∃ trace, answer = .ok trace ∧ trace.runId = runId ∧
    trace.adapterBindingRef = driver.adapterBindingRef ∧ evaluate trace = [] ∧
    case.traceId = some trace.traceId ∧ case.eventCount = trace.events.length

theorem evaluateCase_passed {readings : Readings} {runId : String} {suite : CertificationSuite}
    {i : ℕ} {scenario : CertificationScenario} {answer : Except Exn (CertificationTrace rt)}
    {records : R} :
    let case := (evaluateCase driver recorder readings runId suite i scenario answer records).1
    case.scenario = scenario ∧ (case.status = .passed → PassedOn driver runId answer case) := by
  unfold evaluateCase
  split
  · exact ⟨rfl, nofun⟩
  · next trace =>
    split
    · exact ⟨rfl, nofun⟩
    · refine ⟨rfl, fun hpassed => ?_⟩
      have hnil : caseFailures driver runId suite (readings.caseMs i) trace = [] := by
        by_contra hne
        rw [show (tracedCase driver runId suite scenario (readings.caseMs i) trace).status = .failed
          from if_neg hne] at hpassed
        cases hpassed
      simp only [caseFailures, List.append_eq_nil_iff, failIf_eq_nil, not_not] at hnil
      exact ⟨trace, rfl, hnil.1.1.2, hnil.1.2, hnil.1.1.1, rfl, rfl⟩

/-- The cases of a run belong to the scenarios in their order, each with the driver's answer. -/
theorem runCases_forall₂ (readings : Readings) (runId : String) (suite : CertificationSuite) (i : ℕ)
    (state : S) (records : R) (scenarios : List CertificationScenario) :
    List.Forall₂ (fun p case => case.scenario = p.1 ∧
        (case.status = .passed → PassedOn driver runId p.2 case))
      (scenarios.zip (answers driver runId state scenarios))
      (runCases driver recorder readings runId suite i state records scenarios).1 := by
  induction scenarios generalizing i state records with
  | nil => exact .nil
  | cons scenario scenarios ih =>
    rw [answers, runCases, List.zip_cons_cons]
    exact .cons evaluateCase_passed (ih _ _ _)

/-- A report certifies a suite when it has one case per scenario, in a trace of that very scenario, of
the run and of the adapter version, that the evaluator finds nothing wrong with. -/
def Certifies (driver : PartnerCertificationDriver rt S) (runId : String) (state : S)
    (suite : CertificationSuite) (report : CertificationReport rt) : Prop :=
  suite.scenarios.Nodup ∧
  List.Forall₂ (fun p case => case.scenario = p.1 ∧ PassedOn driver runId p.2 case ∧
      ∀ trace, p.2 = .ok trace → trace.scenario = p.1)
    (suite.scenarios.zip (answers driver runId state suite.scenarios)) report.cases

/-- The report comes from a run of the suite, alone or inside a certification. -/
inductive Produces (driver : PartnerCertificationDriver rt S) (runId : String) (state : S)
    (suite : CertificationSuite) (report : CertificationReport rt) : Prop
  | run {R : Type} (recorder : CertificationRunRecorder rt R) (readings : Readings)
      (manifestPayloadSha256 : String) (at_ : Instant) (records records' : R)
      (h : run driver recorder readings runId manifestPayloadSha256 suite at_ state records =
        .ok (report, records'))
  | certify {R : Type} (recorder : CertificationRunRecorder rt R) (readings : Readings)
      (keys : KeyProvider) (signingKeyId : String) (signed : SignedCapabilityManifest)
      (instant : Instant) (records records' : R)
      (stored stored' : Dict String (SignedCertificationReport rt)) (signature : SignatureEnvelope)
      (hsuite : CertificationSuite.forManifest signed.manifest = .ok suite)
      (h : PartnerCertificationCoordinator.certify keys signingKeyId driver recorder readings runId
        signed instant state records stored = .ok (⟨report, signature⟩, records', stored'))

theorem cases_of_run {readings : Readings} {runId sha256 : String} {suite : CertificationSuite}
    {at_ : Instant} {state : S} {records records' : R} {report : CertificationReport rt}
    (h : run driver recorder readings runId sha256 suite at_ state records = .ok (report, records')) :
    ∃ records₀, report.cases =
      (runCases driver recorder readings runId suite 0 state records₀ suite.scenarios).1 := by
  simp only [run, bind_eq_ok, pure_eq_ok, Prod.mk.injEq] at h
  obtain ⟨records₀, -, report', hreport, records'', -, rfl, rfl⟩ := h
  refine ⟨records₀, ?_⟩
  unfold buildReport at hreport
  split_ifs at hreport
  cases hreport
  rfl

theorem Produces.cases {runId : String} {state : S} {suite : CertificationSuite}
    {report : CertificationReport rt} (h : Produces driver runId state suite report) :
    List.Forall₂ (fun p case => case.scenario = p.1 ∧
        (case.status = .passed → PassedOn driver runId p.2 case))
      (suite.scenarios.zip (answers driver runId state suite.scenarios)) report.cases := by
  cases h with
  | run recorder readings sha256 at_ records records' h =>
    obtain ⟨records₀, hcases⟩ := cases_of_run h
    rw [hcases]
    exact runCases_forall₂ _ _ _ _ _ _ _
  | certify recorder readings keys keyId signed instant records records' stored stored' signature
      hsuite h =>
    obtain ⟨sha256, suite', hsuite', hrun⟩ := PartnerCertificationCoordinator.run_of_certify h
    rw [hsuite, Except.ok.injEq] at hsuite'
    subst hsuite'
    obtain ⟨records₀, hcases⟩ := cases_of_run hrun
    rw [hcases]
    exact runCases_forall₂ _ _ _ _ _ _ _

theorem length_answers (runId : String) (state : S) (scenarios : List CertificationScenario) :
    (answers driver runId state scenarios).length = scenarios.length := by
  induction scenarios generalizing state with
  | nil => rfl
  | cons _ _ ih => rw [answers, List.length_cons, ih, List.length_cons]

/-- A passed report certifies the suite exactly when the driver answered every scenario with a trace of
that scenario. -/
theorem passed_report_certifies_iff {runId : String} {state : S} {suite : CertificationSuite}
    {report : CertificationReport rt} (hreport : Produces driver runId state suite report)
    (hpassed : report.status = .passed) :
    Certifies driver runId state suite report ↔
      ∀ p ∈ suite.scenarios.zip (answers driver runId state suite.scenarios),
        ∀ trace, p.2 = .ok trace → trace.scenario = p.1 := by
  have hcases := hreport.cases
  have hall : ∀ c ∈ report.cases, c.status = .passed := by
    have hstatus := report.status_eq
    rw [hpassed, statusOf] at hstatus
    by_contra hne
    rw [if_neg hne] at hstatus
    cases hstatus
  have hscenarios : report.cases.map (fun c => c.scenario) = suite.scenarios := by
    have hfst : (suite.scenarios.zip (answers driver runId state suite.scenarios)).map Prod.fst =
        report.cases.map fun c => c.scenario := by
      rw [← List.forall₂_eq_eq_eq, List.forall₂_map_left_iff, List.forall₂_map_right_iff]
      exact hcases.imp fun _ _ h => h.1.symm
    rw [← hfst, List.map_fst_zip (length_answers runId state suite.scenarios).ge]
  constructor
  · rintro ⟨-, hforall⟩
    exact ((List.forall₂_and_left _ _).mp (hforall.imp fun _ _ h => ⟨h.2.2, h.1⟩)).1
  · intro hdriver
    refine ⟨hscenarios ▸ report.unique, List.forall₂_iff_zip.mpr ⟨hcases.length_eq, ?_⟩⟩
    intro p case hmem
    obtain ⟨hp, hcase⟩ := List.of_mem_zip hmem
    obtain ⟨hscenario, hpassedOn⟩ := List.forall₂_zip hcases hmem
    exact ⟨hscenario, hpassedOn (hall case hcase), hdriver p hp⟩

/-! ### Answering with the trace of another scenario -/

/-- A driver that answers every scenario with the same trace. -/
def constantDriver (trace : CertificationTrace rt) : PartnerCertificationDriver rt Unit where
  adapterBindingRef := trace.adapterBindingRef
  evidenceClassification := .partnerSandbox
  executeCase := fun _ _ _ => (.ok trace, ())

/-- A suite with a single scenario. -/
def singleSuite (scenario : CertificationScenario) : CertificationSuite where
  suiteId := "RAILONE-PARTNER-PILOT"
  suiteVersion := "1.0.0"
  scenarios := [scenario]

theorem exists_buildReport {runId sha256 : String} {suite : CertificationSuite}
    {cases : List CertificationCaseResult} {start now : Instant}
    (hbinding : isBindingRef driver.adapterBindingRef = true)
    (hdigest : InstitutionExecutionInstruction.isDigest sha256 = true)
    (hcases : cases ≠ [] ∧ (cases.map fun c => c.scenario).Nodup) :
    ∃ report, buildReport driver runId sha256 suite cases start now = .ok report ∧
      report.cases = cases ∧ report.runId = runId := by
  unfold buildReport
  rw [dif_pos hbinding, dif_pos hdigest, dif_pos hcases]
  exact ⟨_, rfl, rfl, rfl⟩

/-- The adapter version of a trace is well formed, since that of its events is. -/
theorem isBindingRef_of_trace (trace : CertificationTrace rt) :
    isBindingRef trace.adapterBindingRef = true := by
  obtain ⟨e, l, hevents⟩ := List.exists_cons_of_ne_nil trace.nonempty
  have he : e ∈ trace.events := hevents ▸ List.mem_cons_self
  exact trace.bindings e he ▸ e.binding

/-- A run in which the driver answers the single scenario of its suite with a trace without failures
passes, whatever the scenario of the trace. -/
theorem exists_run_constantDriver {trace : CertificationTrace rt} (hevaluate : evaluate trace = [])
    (scenario : CertificationScenario) :
    ∃ report, report.status = .passed ∧
      Produces (constantDriver trace) trace.runId () (singleSuite scenario) report := by
  let sha256 := String.ofList (List.replicate 64 'a')
  let case := tracedCase (constantDriver trace) trace.runId (singleSuite scenario) scenario 0 trace
  have hnil : caseFailures (constantDriver trace) trace.runId (singleSuite scenario) 0 trace = [] := by
    simp [caseFailures, hevaluate, constantDriver, CertificationTraceEvaluator.failIf]
  have hstatus : case.status = .passed := if_pos hnil
  obtain ⟨report, hreport, hcases, hrunId⟩ : ∃ report, buildReport (constantDriver trace) trace.runId
      sha256 (singleSuite scenario) [case] 0 0 = .ok report ∧ report.cases = [case] ∧
      report.runId = trace.runId :=
    exists_buildReport (isBindingRef_of_trace trace) (by decide) (by simp)
  let begun : RecordedRun := ⟨trace.adapterBindingRef, sha256, "RAILONE-PARTNER-PILOT", "1.0.0", 0,
    "RUNNING", none, none⟩
  let records : RunRecords rt := ⟨Dict.empty.set trace.runId begun, .empty⟩
  let records' : RunRecords rt :=
    ⟨records.runs, Dict.empty.set (trace.runId, trace.scenario) trace⟩
  have hrecord : (CertificationRunRecorder.inMemory rt).recordTrace records trace = .ok records' := by
    simp [CertificationRunRecorder.inMemory, records, records']
  obtain ⟨records'', hcomplete⟩ : ∃ records'',
      (CertificationRunRecorder.inMemory rt).complete records' report = .ok records'' := by
    simp [CertificationRunRecorder.inMemory, records, records', hrunId, begun]
  refine ⟨report, ?_, .run (.inMemory rt) ⟨fun _ => 0, fun _ => 0, 0⟩ sha256 0 ⟨.empty, .empty⟩
    records'' ?_⟩
  · rw [report.status_eq, hcases, statusOf, if_pos (by simpa using hstatus)]
  · have hloop : runCases (constantDriver trace) (.inMemory rt) ⟨fun _ => 0, fun _ => 0, 0⟩
        trace.runId (singleSuite scenario) 0 () records [scenario] = ([case], records') := by
      simp only [runCases, constantDriver, evaluateCase]
      rw [hrecord]
      rfl
    change (do
      let answers := runCases (constantDriver trace) (.inMemory rt) ⟨fun _ => 0, fun _ => 0, 0⟩
        trace.runId (singleSuite scenario) 0 () records [scenario]
      let report ← buildReport (constantDriver trace) trace.runId sha256 (singleSuite scenario)
        answers.1 0 0
      let records ← (CertificationRunRecorder.inMemory rt).complete answers.2 report
      return (report, records)) = _
    rw [hloop]
    simp only [hreport, hcomplete, bind, Except.bind]
    rfl

/-- Rows that pass the scenario of the pinned adapter version. -/
def pinRows : List (TraceEventType × Option CertificationTraceEvaluator.Scope) :=
  [(.uttCreated, none), (.rttCreated, none), (.adapterBindingVerified, none),
    (.providerDispatched, none), (.adapterBindingMismatchRejected, none)]

/-- A trace of the pinned adapter version. -/
def pinTrace : CertificationTrace Sample.exactRuntime :=
  CertificationTraceEvaluator.rowTrace _ "RUN-1" .adapterVersionPin pinRows (by simp [pinRows])

theorem evaluate_pinTrace : evaluate pinTrace = [] :=
  CertificationTraceEvaluator.evaluate_eq_nil_iff.mpr
    (CertificationTraceEvaluator.passes_rowTrace Sample.collisionFree_exactRuntime (by decide))

/-- Asked for the pinned adapter version the driver certifies it. -/
theorem passed_report_certifies_iff_sample :
    ∃ report, Certifies (constantDriver pinTrace) "RUN-1" () (singleSuite .adapterVersionPin)
      report := by
  obtain ⟨report, hpassed, hproduces⟩ := exists_run_constantDriver evaluate_pinTrace .adapterVersionPin
  refine ⟨report, (passed_report_certifies_iff hproduces hpassed).mpr ?_⟩
  intro p hp trace htrace
  cases List.mem_singleton.mp hp
  cases htrace
  rfl

/-- Asked for a settled payment the driver answers with the trace of the pinned adapter version, and
the report passes. -/
theorem other_scenario_passes :
    ∃ report, report.status = .passed ∧
      Produces (constantDriver pinTrace) "RUN-1" () (singleSuite .p2pSettled) report ∧
      ¬ Certifies (constantDriver pinTrace) "RUN-1" () (singleSuite .p2pSettled) report := by
  obtain ⟨report, hpassed, hproduces⟩ := exists_run_constantDriver evaluate_pinTrace .p2pSettled
  refine ⟨report, hpassed, hproduces, fun hcertifies => ?_⟩
  obtain ⟨case, cases, hcase, -, -⟩ := List.forall₂_cons_left_iff.mp hcertifies.2
  cases hcase.2.2 pinTrace rfl

end CertificationRunner

end RailOne
