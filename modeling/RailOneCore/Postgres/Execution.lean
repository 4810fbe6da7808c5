import RailOneCore.Execution.Store

/-!
# The execution store on PostgreSQL

`PostgresExecutionStore` writes the tables `railone.execution_plans` and `railone.rtt_attempts` as
the migrations define them: column types, `CHECK` constraints, keys, the triggers that guard updates
and the foreign keys that are deferred to the end of a transaction.  Each operation below is one
transaction: it is built from its statements, and a statement that fails discards all of them.

Columns of type `timestamptz` hold every `datetime`, so they need no check.  The foreign keys into
`railone.accepted_utts` are a parameter: whether the table holds a given UTT.
-/

namespace RailOne

open Ordered

/-! ## Column types -/

namespace Column

/-- `text`, and a string inside `jsonb`: any text without the character NUL. -/
def text (s : String) : Bool := !s.toList.contains '\x00'

/-- A `text` column that may be null. -/
def textOrNull (s : Option String) : Bool := s.all text

/-- `integer`. -/
def integer (n : Int) : Bool := decide (-2 ^ 31 ≤ n) && decide (n < 2 ^ 31)

/-- `bigint`. -/
def bigint (n : Int) : Bool := decide (-2 ^ 63 ≤ n) && decide (n < 2 ^ 63)

mutual

/-- `jsonb`. -/
def jsonb : Json → Bool
  | .null | .bool _ | .int _ | .float _ => true
  | .str s => text s
  | .arr items => jsonbItems items
  | .obj fields => jsonbFields fields

def jsonbItems : List Json → Bool
  | [] => true
  | j :: items => jsonb j && jsonbItems items

def jsonbFields : List (String × Json) → Bool
  | [] => true
  | (key, j) :: fields => text key && jsonb j && jsonbFields fields

end

/-- `~ '^RTT-[A-F0-9]{32}$'`; the dollar sign matches only at the end of the text. -/
def rttId (s : String) : Bool :=
  s.toList.take 4 == "RTT-".toList && (s.toList.drop 4).length == 32 &&
    (s.toList.drop 4).all fun c => ('A' ≤ c && c ≤ 'F') || ('0' ≤ c && c ≤ '9')

/-- `~ '^[0-9a-f]{64}$'`. -/
def sha256 (s : String) : Bool :=
  s.toList.length == 64 && s.toList.all fun c => ('0' ≤ c && c ≤ '9') || ('a' ≤ c && c ≤ 'f')

end Column

/-! ## Rows -/

/-- A failure inside the column `plan_state`. -/
structure FailureRow where
  rttId : String
  routeId : String
  failureCode : String
  disposition : FailureDisposition
  /-- In whole seconds since the epoch. -/
  recordedAt : Int
  deriving DecidableEq, Repr

/-- `RouteFailure.to_payload`. -/
def RouteFailure.toPayload (f : RouteFailure) : FailureRow where
  rttId := f.rttId
  routeId := f.routeId
  failureCode := f.failureCode
  disposition := f.disposition
  recordedAt := epochSeconds f.recordedAt

/-- `_failure`. -/
def FailureRow.failure (f : FailureRow) : Except Exn RouteFailure := do
  return ⟨f.rttId, f.routeId, f.failureCode, f.disposition, ← fromTimestamp f.recordedAt⟩

def FailureRow.fits (f : FailureRow) : Bool :=
  Column.text f.rttId && Column.text f.routeId && Column.text f.failureCode

/-- `plan_snapshot`. -/
def ExecutionPlan.snapshot (rt : Runtime) (plan : ExecutionPlan) : Except Exn Json := do
  return .obj [("ranked_routes", .arr (← plan.rankedRoutes.mapM fun r => r.toPayload rt)),
    ("max_attempts", .int plan.maxAttempts),
    ("routing_budget_minor", .int plan.routingBudgetMinor),
    ("created_at", .int (epochSeconds plan.createdAt))]

/-- A row of `railone.execution_plans`.  The column `plan_state` is held as its three entries. -/
structure PlanRow where
  planId : String
  uttId : String
  planSnapshot : Json
  remainingRouteIds : List String
  failures : List FailureRow
  previousRouteId : Option String
  status : PlanStatus
  attemptsUsed : ℕ
  maxAttempts : Int
  routingBudgetMinor : Int
  routingCostSpentMinor : Int
  currentRttId : Option String
  previousRttId : Option String
  successfulRouteId : Option String
  version : ℕ
  createdAt : Instant
  updatedAt : Instant

namespace PlanRow

/-- `_plan_params`: the row of a new plan. -/
def ofPlan (plan : ExecutionPlan) (snapshot : Json) : PlanRow where
  planId := plan.planId
  uttId := plan.uttId
  planSnapshot := snapshot
  remainingRouteIds := plan.remainingRouteIds
  failures := plan.failures.map RouteFailure.toPayload
  previousRouteId := plan.previousRouteId
  status := plan.status
  attemptsUsed := plan.attemptsUsed
  maxAttempts := plan.maxAttempts
  routingBudgetMinor := plan.routingBudgetMinor
  routingCostSpentMinor := plan.routingCostSpentMinor
  currentRttId := plan.currentRttId
  previousRttId := plan.previousRttId
  successfulRouteId := plan.successfulRouteId
  version := plan.version
  createdAt := plan.createdAt
  updatedAt := plan.updatedAt

/-- The columns that `_update_plan` sets. -/
def update (row : PlanRow) (plan : ExecutionPlan) : PlanRow :=
  { row with
    remainingRouteIds := plan.remainingRouteIds
    failures := plan.failures.map RouteFailure.toPayload
    previousRouteId := plan.previousRouteId
    status := plan.status
    attemptsUsed := plan.attemptsUsed
    routingCostSpentMinor := plan.routingCostSpentMinor
    currentRttId := plan.currentRttId
    previousRttId := plan.previousRttId
    successfulRouteId := plan.successfulRouteId
    version := plan.version
    updatedAt := plan.updatedAt }

/-- The columns that are fixed when the row is inserted. -/
def birthFits (row : PlanRow) : Bool :=
  Column.text row.planId && Column.text row.uttId && Column.jsonb row.planSnapshot &&
    decide (1 ≤ row.maxAttempts) && decide (row.maxAttempts ≤ 10) &&
    Column.bigint row.routingBudgetMinor && decide (0 ≤ row.routingBudgetMinor)

/-- The columns that updates set. -/
def stateFits (row : PlanRow) : Bool :=
  row.remainingRouteIds.all Column.text && row.failures.all FailureRow.fits &&
    Column.textOrNull row.previousRouteId && Column.integer row.attemptsUsed &&
    decide (row.attemptsUsed ≤ row.maxAttempts) && Column.bigint row.routingCostSpentMinor &&
    decide (0 ≤ row.routingCostSpentMinor) && Column.textOrNull row.currentRttId &&
    Column.textOrNull row.previousRttId && Column.textOrNull row.successfulRouteId &&
    Column.bigint row.version && decide (1 ≤ row.version)

/-- Column types and `CHECK` constraints. -/
def fits (row : PlanRow) : Bool := row.birthFits && row.stateFits

end PlanRow

/-- A row of `railone.rtt_attempts`. -/
structure AttemptRow where
  rttId : String
  uttId : String
  planId : String
  attemptNumber : ℕ
  routeId : String
  rttPayloadSha256 : String
  signedRtt : SignatureEnvelope
  state : AttemptState
  failureCode : Option String
  actualCostMinor : Option Int
  version : ℕ
  createdAt : Instant
  updatedAt : Instant
  deriving DecidableEq

namespace AttemptRow

/-- `_attempt_params`: the row of a new attempt. -/
def ofAttempt (a : RttAttemptRecord) (rttPayloadSha256 : String) : AttemptRow where
  rttId := a.rttId
  uttId := a.uttId
  planId := a.planId
  attemptNumber := a.attemptNumber
  routeId := a.routeId
  rttPayloadSha256 := rttPayloadSha256
  signedRtt := a.signedRtt
  state := a.state
  failureCode := a.failureCode
  actualCostMinor := a.actualCostMinor
  version := 1
  createdAt := a.createdAt
  updatedAt := a.updatedAt

/-- The columns that `commit_transition` sets. -/
def update (row : AttemptRow) (a : RttAttemptRecord) : AttemptRow :=
  { row with
    state := a.state
    failureCode := a.failureCode
    actualCostMinor := a.actualCostMinor
    version := row.version + 1
    updatedAt := a.updatedAt }

/-- The columns that are fixed when the row is inserted. -/
def birthFits (row : AttemptRow) : Bool :=
  Column.rttId row.rttId && Column.text row.uttId && Column.text row.planId &&
    Column.integer row.attemptNumber && decide (1 ≤ row.attemptNumber) &&
    Column.text row.routeId && Column.sha256 row.rttPayloadSha256 && Column.jsonb row.signedRtt.toDict

/-- The columns that updates set. -/
def stateFits (row : AttemptRow) : Bool :=
  Column.textOrNull row.failureCode &&
    row.actualCostMinor.all (fun n => Column.bigint n && decide (0 ≤ n)) &&
    Column.bigint row.version && decide (1 ≤ row.version)

/-- Column types and `CHECK` constraints. -/
def fits (row : AttemptRow) : Bool := row.birthFits && row.stateFits

end AttemptRow

/-! ## Triggers -/

/-- An error that the database raises. -/
def databaseError (message : String) : Exn := ⟨.external, message⟩

/-- `railone.guard_rtt_update`, as migration 0005 leaves it. -/
def guardRttUpdate (old new : AttemptRow) : Except Exn Unit := do
  require (new.rttId = old.rttId ∧ new.uttId = old.uttId ∧ new.planId = old.planId ∧
      new.attemptNumber = old.attemptNumber ∧ new.routeId = old.routeId ∧
      new.rttPayloadSha256 = old.rttPayloadSha256 ∧ new.signedRtt = old.signedRtt ∧
      new.createdAt = old.createdAt)
    (databaseError "immutable RTT birth fields cannot change")
  require (new.version = old.version + 1) (databaseError "RTT version must advance exactly once")
  require (¬ (old.state = .created ∧
      ¬ (new.state = .failed ∨ new.state = .succeeded ∨ new.state = .reconciliationRequired)))
    (databaseError "invalid initial RTT outcome transition")
  require (¬ (old.state = .reconciliationRequired ∧
      ¬ (new.state = .failed ∨ new.state = .succeeded)))
    (databaseError "reconciled RTT must become failed or succeeded")
  require (¬ (old.state = .failed ∨ old.state = .succeeded))
    (databaseError "RTT operational outcome is terminal")

/-- `railone.guard_execution_plan_update`. -/
def guardExecutionPlanUpdate (old new : PlanRow) : Except Exn Unit := do
  require (new.planId = old.planId ∧ new.uttId = old.uttId ∧
      new.planSnapshot = old.planSnapshot ∧ new.maxAttempts = old.maxAttempts ∧
      new.routingBudgetMinor = old.routingBudgetMinor ∧ new.createdAt = old.createdAt)
    (databaseError "immutable ExecutionPlan fields cannot change")
  require (new.version = old.version + 1)
    (databaseError "ExecutionPlan version must advance exactly once")

/-! ## Statements -/

/-- The tables, by primary key. -/
structure PostgresExecutionStore where
  plans : Dict String PlanRow
  attempts : Dict String AttemptRow

namespace PostgresExecutionStore

/-- The tables without rows. -/
def empty : PostgresExecutionStore := ⟨.empty, .empty⟩

section Statements

variable (db : PostgresExecutionStore)

/-- `INSERT INTO railone.rtt_attempts`. -/
def insertAttempt (known : String → Bool) (a : RttAttemptRecord) :
    Except Exn PostgresExecutionStore := do
  let row := AttemptRow.ofAttempt a (← a.signedRtt.header.strItem "payload_sha256")
  require (row.fits = true) (databaseError "CheckViolation")
  require (db.attempts.get? row.rttId = none) (databaseError "UniqueViolation")
  require (∀ other ∈ db.attempts.values, other.rttPayloadSha256 ≠ row.rttPayloadSha256)
    (databaseError "UniqueViolation")
  require (∀ other ∈ db.attempts.values,
      ¬ (other.planId = row.planId ∧ other.attemptNumber = row.attemptNumber))
    (databaseError "UniqueViolation")
  require (known row.uttId = true) (databaseError "ForeignKeyViolation")
  require ((db.plans.get? row.planId).isSome = true) (databaseError "ForeignKeyViolation")
  return { db with attempts := db.attempts.set row.rttId row }

/-- `UPDATE railone.rtt_attempts`, which must find its row. -/
def updateAttempt (a : RttAttemptRecord) : Except Exn PostgresExecutionStore :=
  match db.attempts.get? a.rttId with
  | none => .error ⟨.rttNotFound, "RTT is missing or already has an outcome"⟩
  | some row => do
    require (row.planId = a.planId ∧ (row.state = .created ∨ row.state = .reconciliationRequired))
      ⟨.rttNotFound, "RTT is missing or already has an outcome"⟩
    guardRttUpdate row (row.update a)
    require ((row.update a).fits = true) (databaseError "CheckViolation")
    return { db with attempts := db.attempts.set a.rttId (row.update a) }

/-- `_update_plan`, which must find its row: the plan at the previous version, with the expected
pointer to the attempt in flight. -/
def updatePlan (previousVersion : ℕ) (plan : ExecutionPlan) (pointer : Option String) :
    Except Exn PostgresExecutionStore :=
  match db.plans.get? plan.planId with
  | none => .error ExecutionStore.concurrentUpdate
  | some row => do
    require (row.version = previousVersion ∧ row.currentRttId = pointer)
      ExecutionStore.concurrentUpdate
    guardExecutionPlanUpdate row (row.update plan)
    require ((row.update plan).fits = true) (databaseError "CheckViolation")
    return { db with plans := db.plans.set plan.planId (row.update plan) }

/-- Whether a pointer to an attempt is null or finds its row. -/
def resolves (pointer : Option String) : Bool :=
  pointer.all fun rttId => (db.attempts.get? rttId).isSome

/-- The end of a transaction: the deferred foreign keys of the plan it has updated. -/
def commit (plan : ExecutionPlan) : Except Exn PostgresExecutionStore := do
  require (db.resolves plan.currentRttId = true ∧ db.resolves plan.previousRttId = true)
    (databaseError "ForeignKeyViolation")
  return db

end Statements

/-! ## Transactions -/

/-- `create_plan`.  The row that the caller reads back is returned as it is stored. -/
def createPlan (rt : Runtime) (db : PostgresExecutionStore) (known : String → Bool)
    (plan : ExecutionPlan) : Except Exn (PlanRow × PostgresExecutionStore) := do
  let row := PlanRow.ofPlan plan (← plan.snapshot rt)
  require (row.fits = true) (databaseError "CheckViolation")
  -- `ON CONFLICT (utt_id) DO NOTHING`
  match db.plans.values.find? fun other => other.uttId == plan.uttId with
  | some existing =>
    require (existing.planId = plan.planId)
      ⟨.executionPlanConflict, "UTT already has a different execution plan"⟩
    return (existing, db)
  | none =>
    require (db.plans.get? row.planId = none) (databaseError "UniqueViolation")
    require (known row.uttId = true) (databaseError "ForeignKeyViolation")
    let db ← commit { db with plans := db.plans.set row.planId row } plan
    return (row, db)

/-- The check that both commits make before they open their transaction. -/
def requireNextVersion (previousVersion : ℕ) (plan : ExecutionPlan) : Except Exn Unit :=
  require (plan.version = previousVersion + 1)
    ⟨.valueError, "execution plan version must advance exactly once"⟩

/-- `commit_start`. -/
def commitStart (db : PostgresExecutionStore) (known : String → Bool) (previousVersion : ℕ)
    (plan : ExecutionPlan) (a : RttAttemptRecord) : Except Exn PostgresExecutionStore := do
  requireNextVersion previousVersion plan
  let db ← db.insertAttempt known a
  let db ← db.updatePlan previousVersion plan none
  db.commit plan

/-- `commit_transition`. -/
def commitTransition (db : PostgresExecutionStore) (previousVersion : ℕ) (plan : ExecutionPlan)
    (a : RttAttemptRecord) : Except Exn PostgresExecutionStore := do
  requireNextVersion previousVersion plan
  let db ← db.updateAttempt a
  let db ← db.updatePlan previousVersion plan (some a.rttId)
  db.commit plan

/-! ## When statements succeed -/

section Outcomes

variable {db db' : PostgresExecutionStore}

/-- The trigger lets an open attempt reach an outcome, but not be parked twice. -/
theorem guardRttUpdate_update {row : AttemptRow} {a : RttAttemptRecord} {u : Unit} :
    guardRttUpdate row (row.update a) = .ok u ↔
      row.state = .created ∧ a.state ≠ .created ∨
        row.state = .reconciliationRequired ∧ (a.state = .failed ∨ a.state = .succeeded) := by
  simp only [guardRttUpdate, bind_eq_ok, require_eq_ok, exists_const]
  simp only [AttemptRow.update]
  cases row.state <;> cases a.state <;> simp

theorem guardExecutionPlanUpdate_update {row : PlanRow} {plan : ExecutionPlan} {u : Unit} :
    guardExecutionPlanUpdate row (row.update plan) = .ok u ↔ plan.version = row.version + 1 := by
  simp only [guardExecutionPlanUpdate, bind_eq_ok, require_eq_ok, exists_const]
  simp [PlanRow.update]

theorem insertAttempt_eq_ok {known : String → Bool} {a : RttAttemptRecord} :
    db.insertAttempt known a = .ok db' ↔
      ∃ sha, a.signedRtt.header.strItem "payload_sha256" = .ok sha ∧
        (AttemptRow.ofAttempt a sha).fits = true ∧ db.attempts.get? a.rttId = none ∧
        (∀ other ∈ db.attempts.values, other.rttPayloadSha256 ≠ sha) ∧
        (∀ other ∈ db.attempts.values,
          ¬ (other.planId = a.planId ∧ other.attemptNumber = a.attemptNumber)) ∧
        known a.uttId = true ∧ (db.plans.get? a.planId).isSome = true ∧
        db' = { db with attempts := db.attempts.set a.rttId (AttemptRow.ofAttempt a sha) } := by
  simp only [insertAttempt, bind_eq_ok, require_eq_ok, pure_eq_ok, exists_const,
    @eq_comm _ _ db']
  rfl

theorem updateAttempt_eq_ok {a : RttAttemptRecord} :
    db.updateAttempt a = .ok db' ↔
      ∃ row, db.attempts.get? a.rttId = some row ∧ row.planId = a.planId ∧
        guardRttUpdate row (row.update a) = .ok () ∧ (row.update a).fits = true ∧
        db' = { db with attempts := db.attempts.set a.rttId (row.update a) } := by
  unfold updateAttempt
  cases db.attempts.get? a.rttId with
  | none => simp
  | some row =>
    simp only [bind_eq_ok, require_eq_ok, pure_eq_ok, exists_const, Option.some.injEq,
      exists_eq_left', @eq_comm _ _ db', guardRttUpdate_update]
    constructor
    · rintro ⟨⟨hplan, -⟩, h⟩
      exact ⟨hplan, h⟩
    · rintro ⟨hplan, hguard, h⟩
      exact ⟨⟨hplan, hguard.imp And.left And.left⟩, hguard, h⟩

theorem updatePlan_eq_ok {v : ℕ} {plan : ExecutionPlan} {pointer : Option String} :
    db.updatePlan v plan pointer = .ok db' ↔
      ∃ row, db.plans.get? plan.planId = some row ∧ row.version = v ∧ row.currentRttId = pointer ∧
        plan.version = row.version + 1 ∧ (row.update plan).fits = true ∧
        db' = { db with plans := db.plans.set plan.planId (row.update plan) } := by
  unfold updatePlan
  cases db.plans.get? plan.planId with
  | none => simp
  | some row =>
    simp only [bind_eq_ok, require_eq_ok, pure_eq_ok, exists_const, Option.some.injEq,
      exists_eq_left', @eq_comm _ _ db', guardExecutionPlanUpdate_update, and_assoc]

theorem commit_eq_ok {plan : ExecutionPlan} :
    db.commit plan = .ok db' ↔
      (db.resolves plan.currentRttId = true ∧ db.resolves plan.previousRttId = true) ∧
        db' = db := by
  simp only [commit, bind_eq_ok, require_eq_ok, pure_eq_ok, exists_const, @eq_comm _ _ db']

end Outcomes

end PostgresExecutionStore

end RailOne
