import RailOneCore.Platform.Persistence
import RailOneCore.Postgres.Execution

/-!
# The two execution stores make the same decisions

The commits of a run of the platform are replayed, in their order, on the PostgreSQL store.  As long
as every commit that is based on the stored version of its plan fits the columns, names its attempt
without surrounding white space and does not park an attempt that is parked already, both stores
accept the same commits, and hold the same plans and attempts after each of them.

The last condition is the one that callers can break by timing alone: the trigger on
`railone.rtt_attempts` refuses to park an attempt twice, and the in-memory store does not look at the
state of the attempt that it replaces.
-/

namespace RailOne

open Concurrent Ordered

/-! ## What the stores have in common -/

/-- The row holds what the plan says. -/
structure PlanRow.Holds (row : PlanRow) (p : ExecutionPlan) : Prop where
  planId : row.planId = p.planId
  uttId : row.uttId = p.uttId
  remainingRouteIds : row.remainingRouteIds = p.remainingRouteIds
  failures : row.failures.mapM FailureRow.failure = .ok p.failures
  previousRouteId : row.previousRouteId = p.previousRouteId
  status : row.status = p.status
  attemptsUsed : row.attemptsUsed = p.attemptsUsed
  maxAttempts : row.maxAttempts = p.maxAttempts
  routingBudgetMinor : row.routingBudgetMinor = p.routingBudgetMinor
  routingCostSpentMinor : row.routingCostSpentMinor = p.routingCostSpentMinor
  currentRttId : row.currentRttId = p.currentRttId
  previousRttId : row.previousRttId = p.previousRttId
  successfulRouteId : row.successfulRouteId = p.successfulRouteId
  version : row.version = p.version

/-- The row holds what the attempt says. -/
structure AttemptRow.Holds (row : AttemptRow) (a : RttAttemptRecord) : Prop where
  rttId : row.rttId = a.rttId
  uttId : row.uttId = a.uttId
  planId : row.planId = a.planId
  attemptNumber : row.attemptNumber = a.attemptNumber
  routeId : row.routeId = a.routeId
  signedRtt : row.signedRtt = a.signedRtt
  state : row.state = a.state
  failureCode : row.failureCode = a.failureCode
  actualCostMinor : row.actualCostMinor = a.actualCostMinor

/-- The tables hold the plans and the attempts of the in-memory store, and no others. -/
structure PostgresExecutionStore.Mirrors (db : PostgresExecutionStore) (st : ExecutionStore) :
    Prop where
  plans : ∀ id, Option.Rel PlanRow.Holds (db.plans.get? id) (st.plans.get? id)
  attempts : ∀ id, Option.Rel AttemptRow.Holds (db.attempts.get? id) (st.attempts.get? id)

/-! ## Replaying commits -/

/-- Whether the in-memory store accepts the operation. -/
def Op.accepted : Op → World → Bool
  | .createPlan plan, w => (w.executions.createPlan plan).toBool
  | .commitStart v plan a, w => (w.executions.commitStart v plan a).toBool
  | .commitTransition v plan a, w => (w.executions.commitTransition v plan a).toBool
  | _, _ => true

/-- Whether `railone.accepted_utts` holds a UTT. -/
def World.knows (w : World) (uttId : String) : Bool := (w.contracts.utts.get? uttId).isSome

namespace PostgresExecutionStore

/-- The operation on the PostgreSQL store, which the service would call in the same place. -/
def perform (rt : Runtime) (db : PostgresExecutionStore) (w : World) :
    Op → Except Exn PostgresExecutionStore
  | .createPlan plan => (db.createPlan rt w.knows plan).map Prod.snd
  | .commitStart v plan a => db.commitStart w.knows v plan a
  | .commitTransition v plan a => db.commitTransition v plan a
  | _ => .ok db

/-- The tables after the operation: a transaction that fails leaves nothing behind. -/
def after (rt : Runtime) (db : PostgresExecutionStore) (w : World) (o : Op) :
    PostgresExecutionStore :=
  match db.perform rt w o with
  | .ok db' => db'
  | .error _ => db

/-- The tables after the operations of a run. -/
def replay (rt : Runtime) (l : List (System.Event Call Op World)) : PostgresExecutionStore :=
  l.foldl (fun db e => db.after rt e.before e.op) .empty

/-- At every operation of the run both stores decide alike, and after it they hold the same. -/
def AgreesOn (rt : Runtime) (l : List (System.Event Call Op World)) : Prop :=
  ∀ l₁ e l₂, l = l₁ ++ e :: l₂ →
    ((replay rt l₁).perform rt e.before e.op).toBool = e.op.accepted e.before ∧
      (replay rt (l₁ ++ [e])).Mirrors e.after.executions

end PostgresExecutionStore

/-! ## The condition -/

/-- The plan's changing columns take its values. -/
def ExecutionPlan.storable (p : ExecutionPlan) : Bool := (PlanRow.ofPlan p .null).stateFits

/-- The failures of the plan were recorded at whole seconds. -/
def ExecutionPlan.inWholeSeconds (p : ExecutionPlan) : Prop :=
  ∀ f ∈ p.failures, fromTimestamp (epochSeconds f.recordedAt) = .ok f.recordedAt

/-- The attempt's changing columns take its values. -/
def RttAttemptRecord.storable (a : RttAttemptRecord) : Bool := (AttemptRow.ofAttempt a "").stateFits

/-- The commit is based on the stored version of its plan. -/
def World.isCurrent (w : World) (v : ℕ) (p : ExecutionPlan) : Prop :=
  ∃ q, w.executions.plans.get? p.planId = some q ∧ q.version = v

/-- The condition on a `commit_start`: the new row fits its columns, and its digest is new. -/
structure StartStorable (w : World) (p : ExecutionPlan) (a : RttAttemptRecord) : Prop where
  plan : p.storable = true ∧ p.inWholeSeconds
  attempt : ∃ sha, a.signedRtt.header.strItem "payload_sha256" = .ok sha ∧
    (AttemptRow.ofAttempt a sha).fits = true ∧
    ∀ r b, w.executions.attempts.get? r = some b →
      b.signedRtt.header.strItem "payload_sha256" ≠ .ok sha

/-- The condition on a `commit_transition`: the values fit their columns, the caller has named the
attempt as it is stored, and the commit does not park an attempt that is parked already. -/
structure TransitionStorable (w : World) (p : ExecutionPlan) (a : RttAttemptRecord) : Prop where
  plan : p.storable = true ∧ p.inWholeSeconds
  attempt : a.storable = true
  trimmed : ∀ r ∈ p.previousRttId, strip r = r
  parksOnce : ∀ b, w.executions.attempts.get? a.rttId = some b →
    ¬ (b.state = .reconciliationRequired ∧ a.state = .reconciliationRequired)

/-- The condition under which the stores agree on an operation. -/
def Op.Storable (rt : Runtime) : Op → World → Prop
  | .createPlan p, _ =>
    ∃ snapshot, p.snapshot rt = .ok snapshot ∧ (PlanRow.ofPlan p snapshot).fits = true
  | .commitStart v p a, w => w.isCurrent v p → StartStorable w p a
  | .commitTransition v p a, w => w.isCurrent v p → TransitionStorable w p a
  | _, _ => True

/-! ## Rows and records -/

/-- How often the row of an attempt has been written by the time it is in a state. -/
def AttemptState.writes : AttemptState → ℕ
  | .created => 1
  | .reconciliationRequired => 2
  | .failed | .succeeded => 3

/-- Failures recorded at whole seconds are read back as they were written. -/
theorem mapM_failure {l : List RouteFailure}
    (h : ∀ f ∈ l, fromTimestamp (epochSeconds f.recordedAt) = .ok f.recordedAt) :
    (l.map RouteFailure.toPayload).mapM FailureRow.failure = .ok l := by
  induction l with
  | nil => rfl
  | cons f l ih =>
    have hf : f.toPayload.failure = .ok f := by
      simp only [FailureRow.failure, RouteFailure.toPayload, h f List.mem_cons_self, bind_eq_ok,
        pure_eq_ok, Except.ok.injEq, exists_eq_left']
    rw [List.map_cons, List.mapM_cons, hf, ih fun g hg => h g (List.mem_cons_of_mem _ hg)]
    rfl

namespace PlanRow.Holds

variable {row : PlanRow} {p q : ExecutionPlan}

/-- The row of a new plan. -/
theorem ofPlan (hfailures : p.failures = []) (snapshot : Json) :
    (PlanRow.ofPlan p snapshot).Holds p where
  planId := rfl
  uttId := rfl
  remainingRouteIds := rfl
  failures := by
    rw [PlanRow.ofPlan, hfailures]
    rfl
  previousRouteId := rfl
  status := rfl
  attemptsUsed := rfl
  maxAttempts := rfl
  routingBudgetMinor := rfl
  routingCostSpentMinor := rfl
  currentRttId := rfl
  previousRttId := rfl
  successfulRouteId := rfl
  version := rfl

/-- The row after an update. -/
theorem update (h : row.Holds q) (hsame : SamePlan q p) (hwhole : p.inWholeSeconds) :
    (row.update p).Holds p where
  planId := h.planId.trans hsame.planId.symm
  uttId := h.uttId.trans hsame.uttId.symm
  remainingRouteIds := rfl
  failures := mapM_failure hwhole
  previousRouteId := rfl
  status := rfl
  attemptsUsed := rfl
  maxAttempts := h.maxAttempts.trans hsame.maxAttempts.symm
  routingBudgetMinor := h.routingBudgetMinor.trans hsame.routingBudgetMinor.symm
  routingCostSpentMinor := rfl
  currentRttId := rfl
  previousRttId := rfl
  successfulRouteId := rfl
  version := rfl

theorem fits_update (h : row.Holds q) (hsame : SamePlan q p) (hbirth : row.birthFits = true)
    (hfits : p.storable = true) : (row.update p).fits = true := by
  have hmax : row.maxAttempts = p.maxAttempts := h.maxAttempts.trans hsame.maxAttempts.symm
  have hstate : (row.update p).stateFits = p.storable := by
    cases row
    dsimp only at hmax
    subst hmax
    rfl
  rw [PlanRow.fits, hstate, hfits, Bool.and_true]
  exact hbirth

end PlanRow.Holds

namespace AttemptRow.Holds

variable {row : AttemptRow} {a b : RttAttemptRecord}

/-- The row of a new attempt. -/
theorem ofAttempt (a : RttAttemptRecord) (sha : String) : (AttemptRow.ofAttempt a sha).Holds a :=
  ⟨rfl, rfl, rfl, rfl, rfl, rfl, rfl, rfl, rfl⟩

/-- The row after an update. -/
theorem update (h : row.Holds b) (hsame : SameAttempt b a) : (row.update a).Holds a where
  rttId := h.rttId.trans hsame.rttId.symm
  uttId := h.uttId.trans hsame.uttId.symm
  planId := h.planId.trans hsame.planId.symm
  attemptNumber := h.attemptNumber.trans hsame.attemptNumber.symm
  routeId := h.routeId.trans hsame.routeId.symm
  signedRtt := h.signedRtt.trans hsame.signedRtt.symm
  state := rfl
  failureCode := rfl
  actualCostMinor := rfl

end AttemptRow.Holds

theorem AttemptRow.fits_update {row : AttemptRow} {a : RttAttemptRecord}
    (hbirth : row.birthFits = true) (hwrites : row.version ≤ 2) (hfits : a.storable = true) :
    (row.update a).fits = true := by
  have hversion : Column.bigint ((row.version + 1 : ℕ) : Int) = true := by
    simp only [Column.bigint, Bool.and_eq_true, decide_eq_true_eq]
    omega
  simp only [RttAttemptRecord.storable, AttemptRow.stateFits, AttemptRow.ofAttempt,
    Bool.and_eq_true] at hfits
  rw [AttemptRow.fits, Bool.and_eq_true]
  refine ⟨hbirth, ?_⟩
  simp only [AttemptRow.stateFits, AttemptRow.update, Bool.and_eq_true]
  exact ⟨⟨⟨hfits.1.1.1, hfits.1.1.2⟩, hversion⟩, by simp⟩

namespace PostgresExecutionStore

/-! ## What is true of the tables -/

/-- What the constraints and the triggers keep true of the tables. -/
structure WellFormed (db : PostgresExecutionStore) : Prop where
  plan : ∀ {id row}, db.plans.get? id = some row → row.birthFits = true ∧
    db.resolves row.currentRttId = true ∧ db.resolves row.previousRttId = true
  attempt : ∀ {id row}, db.attempts.get? id = some row → row.birthFits = true ∧
    row.signedRtt.header.strItem "payload_sha256" = .ok row.rttPayloadSha256 ∧
    row.version ≤ row.state.writes

section Tables

variable {db : PostgresExecutionStore} {st : ExecutionStore}

theorem Mirrors.empty : Mirrors .empty .empty :=
  ⟨fun _ => by simp [PostgresExecutionStore.empty, ExecutionStore.empty],
    fun _ => by simp [PostgresExecutionStore.empty, ExecutionStore.empty]⟩

theorem WellFormed.empty : WellFormed .empty :=
  ⟨by simp [PostgresExecutionStore.empty], by simp [PostgresExecutionStore.empty]⟩

/-- A stored plan has its row. -/
theorem Mirrors.exists_planRow (h : db.Mirrors st) {id : String} {p : ExecutionPlan}
    (hp : st.plans.get? id = some p) : ∃ row, db.plans.get? id = some row ∧ row.Holds p := by
  have hrel := h.plans id
  rw [hp] at hrel
  generalize db.plans.get? id = found at hrel
  cases hrel with
  | some hrow => exact ⟨_, rfl, hrow⟩

theorem Mirrors.exists_plan (h : db.Mirrors st) {id : String} {row : PlanRow}
    (hrow : db.plans.get? id = some row) : ∃ p, st.plans.get? id = some p ∧ row.Holds p := by
  have hrel := h.plans id
  rw [hrow] at hrel
  generalize st.plans.get? id = found at hrel
  cases hrel with
  | some hp => exact ⟨_, rfl, hp⟩

theorem Mirrors.exists_attemptRow (h : db.Mirrors st) {id : String} {a : RttAttemptRecord}
    (ha : st.attempts.get? id = some a) : ∃ row, db.attempts.get? id = some row ∧ row.Holds a := by
  have hrel := h.attempts id
  rw [ha] at hrel
  generalize db.attempts.get? id = found at hrel
  cases hrel with
  | some hrow => exact ⟨_, rfl, hrow⟩

theorem Mirrors.exists_attempt (h : db.Mirrors st) {id : String} {row : AttemptRow}
    (hrow : db.attempts.get? id = some row) : ∃ a, st.attempts.get? id = some a ∧ row.Holds a := by
  have hrel := h.attempts id
  rw [hrow] at hrel
  generalize st.attempts.get? id = found at hrel
  cases hrel with
  | some ha => exact ⟨_, rfl, ha⟩

/-- Both stores write a plan and an attempt. -/
theorem Mirrors.put (h : db.Mirrors st) {p : ExecutionPlan} {a : RttAttemptRecord} {row : PlanRow}
    {arow : AttemptRow} (hrow : row.Holds p) (harow : arow.Holds a) :
    Mirrors ⟨db.plans.set p.planId row, db.attempts.set a.rttId arow⟩ (st.put p a) := by
  constructor
  · intro id
    rw [ExecutionStore.plans_put, Dict.get?_set, Dict.get?_set]
    split
    · exact .some hrow
    · exact h.plans id
  · intro id
    rw [ExecutionStore.attempts_put, Dict.get?_set, Dict.get?_set]
    split
    · exact .some harow
    · exact h.attempts id

/-- A pointer that finds its row still does after an attempt has been written. -/
theorem resolves_set {pointer : Option String} {plans : Dict String PlanRow} {r : String}
    {arow : AttemptRow} (h : db.resolves pointer = true) :
    resolves ⟨plans, db.attempts.set r arow⟩ pointer = true := by
  cases pointer with
  | none => rfl
  | some id =>
    simp only [resolves, Option.all_some, Dict.get?_set] at h ⊢
    split
    · rfl
    · exact h

/-- Writing rows that fit keeps the tables well formed. -/
theorem WellFormed.put (h : db.WellFormed) {id r : String} {row : PlanRow} {arow : AttemptRow}
    (hrow : row.birthFits = true)
    (hcurrent : resolves ⟨db.plans, db.attempts.set r arow⟩ row.currentRttId = true)
    (hprevious : resolves ⟨db.plans, db.attempts.set r arow⟩ row.previousRttId = true)
    (harow : arow.birthFits = true ∧
      arow.signedRtt.header.strItem "payload_sha256" = .ok arow.rttPayloadSha256 ∧
      arow.version ≤ arow.state.writes) :
    WellFormed ⟨db.plans.set id row, db.attempts.set r arow⟩ := by
  constructor
  · intro id' row' hrow'
    simp only [Dict.get?_set] at hrow'
    split at hrow'
    · cases hrow'
      exact ⟨hrow, hcurrent, hprevious⟩
    · obtain ⟨hbirth, hcur, hprev⟩ := h.plan hrow'
      exact ⟨hbirth, resolves_set hcur, resolves_set hprev⟩
  · intro id' row' hrow'
    simp only [Dict.get?_set] at hrow'
    split at hrow'
    · cases hrow'
      exact harow
    · exact h.attempt hrow'

end Tables

/-! ## Transitions -/

section Commits

variable {d : Deployment} {named : Option String} {db db' : PostgresExecutionStore} {w : World}
  {st : ExecutionStore} {v : ℕ} {p : ExecutionPlan} {a : RttAttemptRecord} {u : Unit}

/-- What the trigger checks of an update of the attempt in flight. -/
theorem guardRttUpdate_of_open {row : AttemptRow} {b : RttAttemptRecord} (hrow : row.Holds b)
    (hopen : b.state.isOpen = true) (houtcome : a.state ≠ .created)
    (hparks : ¬ (b.state = .reconciliationRequired ∧ a.state = .reconciliationRequired)) :
    guardRttUpdate row (row.update a) = .ok () := by
  rw [guardRttUpdate_update, hrow.state]
  cases hb : b.state with
  | created => exact .inl ⟨rfl, houtcome⟩
  | reconciliationRequired =>
    right
    refine ⟨rfl, ?_⟩
    cases ha : a.state with
    | created => exact absurd ha houtcome
    | reconciliationRequired => exact absurd ⟨hb, ha⟩ hparks
    | failed => exact .inl rfl
    | succeeded => exact .inr rfl
  | failed | succeeded =>
    rw [hb] at hopen
    cases hopen

/-- The row is written at most three times. -/
theorem writes_of_guard {row : AttemptRow} (hwrites : row.version ≤ row.state.writes)
    (hguard : guardRttUpdate row (row.update a) = .ok ()) :
    row.version ≤ 2 ∧ (row.update a).version ≤ a.state.writes := by
  change row.version ≤ 2 ∧ row.version + 1 ≤ a.state.writes
  rcases guardRttUpdate_update.mp hguard with ⟨hrow, ha⟩ | ⟨hrow, ha⟩
  · rw [hrow] at hwrites
    have hle : row.version ≤ 1 := hwrites
    have hge : 2 ≤ a.state.writes := by
      cases h : a.state <;> first | exact absurd h ha | decide
    omega
  · rw [hrow] at hwrites
    have hle : row.version ≤ 2 := hwrites
    have hge : a.state.writes = 3 := by
      rcases ha with h | h <;> rw [h] <;> rfl
    omega

/-- The attempt in flight is open, and it is one of the plan's. -/
theorem isOpen_of_current {q : ExecutionPlan} {b : RttAttemptRecord} (hs : st.Consistent)
    (hq : st.plans.get? p.planId = some q) (hcurrent : q.currentRttId = some a.rttId)
    (hb : st.attempts.get? a.rttId = some b) (hplan : b.planId = p.planId) :
    b.state.isOpen = true := by
  have hmem : b ∈ st.attemptsOf p.planId :=
    ExecutionStore.mem_attemptsOf.mpr ⟨⟨_, hb⟩, hplan⟩
  obtain ⟨hkey, htrim⟩ := hs.attemptKey hb
  exact ((hs.agrees hq).inFlight b hmem).mpr ⟨a.rttId, hcurrent, htrim.trans hkey.symm⟩

/-- The database accepts a storable transition that the in-memory store accepts. -/
theorem commitTransition_forward (hdb : db.Mirrors w.executions) (hwf : db.WellFormed)
    (hs : w.executions.Consistent) (hissued : Execution.TransitionIssued named w.executions v p a)
    (hstorable : w.isCurrent v p → TransitionStorable w p a)
    (hst : w.executions.commitTransition v p a = .ok (u, st)) :
    ∃ db', db.commitTransition v p a = .ok db' ∧ db'.Mirrors st ∧ db'.WellFormed := by
  obtain ⟨rfl, ⟨q, hq, hv, hcurrent⟩, b, hb⟩ := ExecutionStore.commitTransition_eq_ok hst
  have hok : TransitionStorable w p a := hstorable ⟨q, hq, hv⟩
  have hsame : SamePlan q p := hissued.plan hq hv
  have hba : SameAttempt b a := by
    obtain ⟨b', hb', h⟩ := hissued.attempt
    rw [hb, Option.some.injEq] at hb'
    exact hb' ▸ h
  obtain ⟨row, hrow, hholds⟩ := hdb.exists_planRow hq
  obtain ⟨arow, harow, haholds⟩ := hdb.exists_attemptRow hb
  obtain ⟨hbirth, hsha, hwrites⟩ := hwf.attempt harow
  have hopen : b.state.isOpen = true :=
    isOpen_of_current hs hq hcurrent hb (hba.planId.symm.trans hissued.lineage)
  have hguard := guardRttUpdate_of_open haholds hopen hissued.outcome (hok.parksOnce b hb)
  obtain ⟨hle, hwrites'⟩ := writes_of_guard hwrites hguard
  have hattempt : db.updateAttempt a =
      .ok ⟨db.plans, db.attempts.set a.rttId (arow.update a)⟩ :=
    updateAttempt_eq_ok.mpr ⟨arow, harow, haholds.planId.trans hba.planId.symm, hguard,
      AttemptRow.fits_update hbirth hle hok.attempt, rfl⟩
  have hversion : p.version = row.version + 1 := by
    rw [hholds.version, hv]
    exact hissued.version
  have hplan : updatePlan ⟨db.plans, db.attempts.set a.rttId (arow.update a)⟩ v p (some a.rttId) =
      .ok ⟨db.plans.set p.planId (row.update p), db.attempts.set a.rttId (arow.update a)⟩ :=
    updatePlan_eq_ok.mpr ⟨row, hrow, hholds.version.trans hv, hholds.currentRttId.trans hcurrent,
      hversion, hholds.fits_update hsame (hwf.plan hrow).1 hok.plan.1, rfl⟩
  -- the pointers name the attempt that has just been written
  obtain ⟨r, -, hprevious, hname, hpointer⟩ := hissued.pointers
  have hr : r = a.rttId := (hok.trimmed r hprevious).symm.trans hname
  subst hr
  have hresolves : ∀ plans : Dict String PlanRow,
      resolves ⟨plans, db.attempts.set a.rttId (arow.update a)⟩ p.currentRttId = true ∧
      resolves ⟨plans, db.attempts.set a.rttId (arow.update a)⟩ p.previousRttId = true := by
    intro plans
    constructor
    · cases hcur : p.currentRttId with
      | none => rfl
      | some c =>
        rw [hpointer c hcur]
        simp [resolves]
    · rw [hprevious]
      simp [resolves]
  refine ⟨_, ?_, hdb.put (hholds.update hsame hok.plan.2) (haholds.update hba), ?_⟩
  · rw [commitTransition, bind_eq_ok]
    refine ⟨(), require_eq_ok.mpr hissued.version, ?_⟩
    rw [hattempt]
    change (updatePlan _ _ _ _ >>= fun db => db.commit p) = _
    rw [hplan]
    exact commit_eq_ok.mpr ⟨hresolves _, rfl⟩
  · exact hwf.put (hwf.plan hrow).1 (hresolves _).1 (hresolves _).2 ⟨hbirth, hsha, hwrites'⟩

/-- The in-memory store accepts the transitions that the database accepts. -/
theorem commitTransition_backward (hdb : db.Mirrors st)
    (h : db.commitTransition v p a = .ok db') :
    ∃ res, st.commitTransition v p a = .ok res := by
  simp only [commitTransition, bind_eq_ok] at h
  obtain ⟨-, -, db₁, h₁, db₂, h₂, -⟩ := h
  obtain ⟨arow, harow, -, -, -, rfl⟩ := updateAttempt_eq_ok.mp h₁
  obtain ⟨row, hrow, hv, hcurrent, -⟩ := updatePlan_eq_ok.mp h₂
  obtain ⟨q, hq, hholds⟩ := hdb.exists_plan hrow
  obtain ⟨b, hb, -⟩ := hdb.exists_attempt harow
  have hqv : q.version = v := hholds.version.symm.trans hv
  have hqc : q.currentRttId = some a.rttId := hholds.currentRttId.symm.trans hcurrent
  exact ⟨_, by simp [ExecutionStore.commitTransition, hq, hqv, hb, hqc]; rfl⟩

/-! ## Starts -/

/-- The database accepts a storable start that the in-memory store accepts. -/
theorem commitStart_forward (hdb : db.Mirrors w.executions) (hwf : db.WellFormed)
    (hs : w.executions.Consistent) (hissued : Execution.StartIssued d w.executions v p a)
    (hutt : ∀ id q, w.executions.plans.get? id = some q → w.knows q.uttId = true)
    (hstorable : w.isCurrent v p → StartStorable w p a)
    (hst : w.executions.commitStart v p a = .ok (u, st)) :
    ∃ db', db.commitStart w.knows v p a = .ok db' ∧ db'.Mirrors st ∧ db'.WellFormed := by
  obtain ⟨rfl, hlineage, hplanId, hfresh, q, hq, hv, hidle⟩ := ExecutionStore.commitStart_eq_ok hst
  obtain ⟨⟨hpfits, hwhole⟩, sha, hsha, hafits, hdigest⟩ := hstorable ⟨q, hq, hv⟩
  obtain ⟨hsame, hprevious, hnumber⟩ := hissued.plan hq hv
  obtain ⟨row, hrow, hholds⟩ := hdb.exists_planRow hq
  have hnone : db.attempts.get? a.rttId = none := by
    by_contra hsome
    obtain ⟨arow, harow⟩ := Option.ne_none_iff_exists'.mp hsome
    obtain ⟨b, hb, -⟩ := hdb.exists_attempt harow
    rw [hfresh] at hb
    cases hb
  have hothers : ∀ other ∈ db.attempts.values, other.rttPayloadSha256 ≠ sha ∧
      ¬ (other.planId = a.planId ∧ other.attemptNumber = a.attemptNumber) := by
    intro other hother
    obtain ⟨id, hid⟩ := Dict.mem_values.mp hother
    obtain ⟨b, hb, hbholds⟩ := hdb.exists_attempt hid
    constructor
    · rintro rfl
      refine hdigest id b hb ?_
      rw [← hbholds.signedRtt]
      exact (hwf.attempt hid).2.1
    · -- the attempts of the plan are numbered up to `attempts_used`
      rintro ⟨hplan, hnum⟩
      have hmem : b ∈ w.executions.attemptsOf p.planId :=
        ExecutionStore.mem_attemptsOf.mpr ⟨⟨id, hb⟩, by rw [← hbholds.planId, hplan, hplanId]⟩
      have hrange : b.attemptNumber ∈ List.range' 1 q.attemptsUsed := by
        rw [← (hs.agrees hq).numbers]
        exact List.mem_map_of_mem hmem
      rw [List.mem_range'_1] at hrange
      rw [← hbholds.attemptNumber, hnum, hnumber] at hrange
      omega
  have hknown : w.knows a.uttId = true := by
    rw [hlineage, hsame.uttId]
    exact hutt _ q hq
  have hinsert : db.insertAttempt w.knows a =
      .ok ⟨db.plans, db.attempts.set a.rttId (AttemptRow.ofAttempt a sha)⟩ :=
    insertAttempt_eq_ok.mpr ⟨sha, hsha, hafits, hnone, fun other h => (hothers other h).1,
      fun other h => (hothers other h).2, hknown, by rw [hplanId, hrow]; rfl, rfl⟩
  have hversion : p.version = row.version + 1 := by
    rw [hholds.version, hv]
    exact hissued.version
  have hplan : updatePlan ⟨db.plans, db.attempts.set a.rttId (AttemptRow.ofAttempt a sha)⟩ v p none =
      .ok ⟨db.plans.set p.planId (row.update p),
        db.attempts.set a.rttId (AttemptRow.ofAttempt a sha)⟩ :=
    updatePlan_eq_ok.mpr ⟨row, hrow, hholds.version.trans hv, hholds.currentRttId.trans hidle,
      hversion, hholds.fits_update hsame (hwf.plan hrow).1 hpfits, rfl⟩
  have hresolves : ∀ plans : Dict String PlanRow,
      resolves ⟨plans, db.attempts.set a.rttId (AttemptRow.ofAttempt a sha)⟩ p.currentRttId = true ∧
      resolves ⟨plans, db.attempts.set a.rttId (AttemptRow.ofAttempt a sha)⟩ p.previousRttId =
        true := by
    intro plans
    constructor
    · rw [hissued.current]
      simp [resolves]
    · rw [hprevious, ← hholds.previousRttId]
      exact resolves_set (hwf.plan hrow).2.2
  refine ⟨_, ?_, hdb.put (hholds.update hsame hwhole) (.ofAttempt a sha), ?_⟩
  · rw [commitStart, bind_eq_ok]
    refine ⟨(), require_eq_ok.mpr hissued.version, ?_⟩
    rw [hinsert]
    change (updatePlan _ _ _ _ >>= fun db => db.commit p) = _
    rw [hplan]
    exact commit_eq_ok.mpr ⟨hresolves _, rfl⟩
  · rw [AttemptRow.fits, Bool.and_eq_true] at hafits
    have hwrites : 1 ≤ a.state.writes := by
      cases a.state <;> decide
    exact hwf.put (hwf.plan hrow).1 (hresolves _).1 (hresolves _).2 ⟨hafits.1, hsha, hwrites⟩

/-- The in-memory store accepts the starts that the database accepts. -/
theorem commitStart_backward {known : String → Bool} (hdb : db.Mirrors st)
    (hissued : Execution.StartIssued d st v p a) (h : db.commitStart known v p a = .ok db') :
    ∃ res, st.commitStart v p a = .ok res := by
  simp only [commitStart, bind_eq_ok] at h
  obtain ⟨-, -, db₁, h₁, db₂, h₂, -⟩ := h
  obtain ⟨sha, -, -, hnone, -, -, -, -, rfl⟩ := insertAttempt_eq_ok.mp h₁
  obtain ⟨row, hrow, hv, hidle, -⟩ := updatePlan_eq_ok.mp h₂
  obtain ⟨q, hq, hholds⟩ := hdb.exists_plan hrow
  have hqv : q.version = v := hholds.version.symm.trans hv
  have hqc : q.currentRttId = none := hholds.currentRttId.symm.trans hidle
  have hfresh : st.attempts.get? a.rttId = none := by
    by_contra hsome
    obtain ⟨b, hb⟩ := Option.ne_none_iff_exists'.mp hsome
    obtain ⟨arow, harow, -⟩ := hdb.exists_attemptRow hb
    rw [hnone] at harow
    cases harow
  exact ⟨_, by simp [ExecutionStore.commitStart, hq, hqv, hqc, hfresh, hissued.lineage]; rfl⟩

end Commits

/-! ## New plans -/

section Plans

variable {rt : Runtime} {db db' : PostgresExecutionStore} {known : String → Bool}
  {st st' : ExecutionStore} {p q : ExecutionPlan}

/-- The row of a UTT's plan is found exactly when the in-memory store has a plan for the UTT. -/
theorem Mirrors.find_utt (hdb : db.Mirrors st) (hs : st.Consistent) (uttId : String) :
    (∃ row, db.plans.values.find? (fun other => other.uttId == uttId) = some row ∧
        st.planByUtt.get? uttId = some row.planId) ∨
      db.plans.values.find? (fun other => other.uttId == uttId) = none ∧
        st.planByUtt.get? uttId = none := by
  cases hfind : db.plans.values.find? fun other => other.uttId == uttId with
  | some row =>
    left
    refine ⟨row, rfl, ?_⟩
    obtain ⟨id, hid⟩ := Dict.mem_values.mp (List.mem_of_find?_eq_some hfind)
    obtain ⟨q, hq, hholds⟩ := hdb.exists_plan hid
    have hutt : row.uttId = uttId := by simpa using List.find?_some hfind
    have hkey : row.planId = id := hholds.planId.trans (hs.planKey hq)
    rw [hkey, hs.planOfUtt]
    exact ⟨q, hq, hholds.uttId.symm.trans hutt⟩
  | none =>
    right
    refine ⟨rfl, ?_⟩
    by_contra hsome
    obtain ⟨id, hid⟩ := Option.ne_none_iff_exists'.mp hsome
    obtain ⟨q, hq, hutt⟩ := hs.planOfUtt.mp hid
    obtain ⟨row, hrow, hholds⟩ := hdb.exists_planRow hq
    have hne := List.find?_eq_none.mp hfind row (Dict.mem_values.mpr ⟨id, hrow⟩)
    rw [beq_iff_eq, hholds.uttId] at hne
    exact hne hutt

/-- Both stores write a new plan. -/
theorem Mirrors.setPlan (h : db.Mirrors st) {row : PlanRow} (hrow : row.Holds p)
    (planByUtt : Dict String String) :
    Mirrors ⟨db.plans.set p.planId row, db.attempts⟩
      { st with plans := st.plans.set p.planId p, planByUtt := planByUtt } := by
  refine ⟨fun id => ?_, h.attempts⟩
  simp only [Dict.get?_set]
  split
  · exact .some hrow
  · exact h.plans id

theorem WellFormed.setPlan (h : db.WellFormed) {id : String} {row : PlanRow}
    (hbirth : row.birthFits = true) (hcurrent : row.currentRttId = none)
    (hprevious : row.previousRttId = none) :
    WellFormed ⟨db.plans.set id row, db.attempts⟩ := by
  refine ⟨fun {id' row'} hrow' => ?_, h.attempt⟩
  simp only [Dict.get?_set] at hrow'
  split at hrow'
  · cases hrow'
    rw [hcurrent, hprevious]
    exact ⟨hbirth, rfl, rfl⟩
  · exact h.plan hrow'

/-- The database accepts a storable new plan that the in-memory store accepts. -/
theorem createPlan_forward (hdb : db.Mirrors st) (hwf : db.WellFormed) (hs : st.Consistent)
    (hnew : p.failures = [] ∧ p.currentRttId = none ∧ p.previousRttId = none)
    (hstorable : ∃ snapshot, p.snapshot rt = .ok snapshot ∧
      (PlanRow.ofPlan p snapshot).fits = true) (hknown : known p.uttId = true)
    (hst : st.createPlan p = .ok (q, st')) :
    ∃ row db', db.createPlan rt known p = .ok (row, db') ∧ db'.Mirrors st' ∧ db'.WellFormed := by
  obtain ⟨snapshot, hsnapshot, hfits⟩ := hstorable
  have hbirth : (PlanRow.ofPlan p snapshot).birthFits = true := by
    rw [PlanRow.fits, Bool.and_eq_true] at hfits
    exact hfits.1
  rcases ExecutionStore.createPlan_eq_ok hst with ⟨rfl, hid⟩ | ⟨hfresh, hid, rfl⟩
  · obtain ⟨row, hfind, hrow⟩ | ⟨-, hnone⟩ := hdb.find_utt hs p.uttId
    · rw [hid, Option.some.injEq] at hrow
      refine ⟨row, db, ?_, hdb, hwf⟩
      rw [createPlan, hsnapshot]
      simp only [bind_eq_ok, require_eq_ok, exists_const, Except.ok.injEq, exists_eq_left']
      refine ⟨hfits, ?_⟩
      rw [hfind]
      simp only [bind_eq_ok, require_eq_ok, exists_const, pure_eq_ok, and_true]
      exact hrow.symm
    · rw [hid] at hnone
      cases hnone
  · obtain ⟨row, -, hrow⟩ | ⟨hfind, -⟩ := hdb.find_utt hs p.uttId
    · rw [hfresh] at hrow
      cases hrow
    · have hnone : db.plans.get? p.planId = none := by
        by_contra hsome
        obtain ⟨row, hrow⟩ := Option.ne_none_iff_exists'.mp hsome
        obtain ⟨q, hq, -⟩ := hdb.exists_plan hrow
        rw [hid] at hq
        cases hq
      refine ⟨PlanRow.ofPlan p snapshot,
        ⟨db.plans.set p.planId (PlanRow.ofPlan p snapshot), db.attempts⟩, ?_,
        hdb.setPlan (.ofPlan hnew.1 snapshot) _, hwf.setPlan hbirth hnew.2.1 hnew.2.2⟩
      rw [createPlan, hsnapshot]
      simp only [bind_eq_ok, require_eq_ok, exists_const, Except.ok.injEq, exists_eq_left']
      refine ⟨hfits, ?_⟩
      rw [hfind]
      simp only [bind_eq_ok, require_eq_ok, exists_const, pure_eq_ok, commit_eq_ok]
      refine ⟨hnone, hknown, _, ⟨?_, rfl⟩, rfl⟩
      rw [hnew.2.1, hnew.2.2]
      exact ⟨rfl, rfl⟩

/-- The in-memory store accepts the plans that the database accepts. -/
theorem createPlan_backward (hdb : db.Mirrors st) (hs : st.Consistent) {row : PlanRow}
    (h : db.createPlan rt known p = .ok (row, db')) : ∃ res, st.createPlan p = .ok res := by
  simp only [createPlan, bind_eq_ok] at h
  obtain ⟨snapshot, -, -, -, h⟩ := h
  rcases hdb.find_utt hs p.uttId with ⟨existing, hfind, hutt⟩ | ⟨hfind, hutt⟩
  · rw [hfind] at h
    simp only [bind_eq_ok, require_eq_ok] at h
    obtain ⟨-, hid, -⟩ := h
    obtain ⟨q, hq, -⟩ := hs.planOfUtt.mp hutt
    rw [hid] at hutt hq
    refine ⟨(q, st), ?_⟩
    simp only [ExecutionStore.createPlan, hutt, ExecutionStore.plan, hq, ne_eq,
      not_true_eq_false, if_false]
    rfl
  · rw [hfind] at h
    simp only [bind_eq_ok, require_eq_ok] at h
    obtain ⟨-, hnone, -⟩ := h
    have hfresh : st.plans.get? p.planId = none := by
      by_contra hsome
      obtain ⟨q, hq⟩ := Option.ne_none_iff_exists'.mp hsome
      obtain ⟨row', hrow', -⟩ := hdb.exists_planRow hq
      rw [show db.plans.get? p.planId = none from hnone] at hrow'
      cases hrow'
    exact ⟨_, by simp [ExecutionStore.createPlan, hutt, hfresh]; rfl⟩

end Plans

/-! ## Runs -/

section Runs

variable {d : Deployment} {db : PostgresExecutionStore} {w₀ : World}

/-- Both stores decide alike on the operation and hold the same after it. -/
structure Follows (rt : Runtime) (db : PostgresExecutionStore) (o : Op) (w w' : World) : Prop where
  verdict : (db.perform rt w o).toBool = o.accepted w
  mirrors : (db.after rt w o).Mirrors w'.executions
  wellFormed : (db.after rt w o).WellFormed

/-- Operations that do not write the execution store. -/
theorem follows_of_part {rt : Runtime} {o : Op} {w w' : World} {r : o.Resp}
    (hdb : db.Mirrors w.executions) (hwf : db.WellFormed) (ho : o.part ≠ .executions)
    (hsem : World.sem rt o w r w') : Follows rt db o w w' := by
  have hexec : w'.executions = w.executions := (World.frame_of_sem hsem).executions ho
  have hperform : db.perform rt w o = .ok db ∧ o.accepted w = true := by
    cases o
    case createPlan => exact absurd rfl ho
    case commitStart => exact absurd rfl ho
    case commitTransition => exact absurd rfl ho
    all_goals exact ⟨rfl, rfl⟩
  have hafter : db.after rt w o = db := by rw [after, hperform.1]
  refine ⟨?_, ?_, ?_⟩
  · rw [hperform.1, hperform.2]
    rfl
  · rw [hafter, hexec]
    exact hdb
  · rw [hafter]
    exact hwf

/-- Commits of the in-memory store that the database mirrors. -/
theorem follows_of_commits {rt : Runtime} {o : Op} {w w' : World} {r : o.Resp}
    {y : Except Exn (o.Ret × ExecutionStore)} (hdb : db.Mirrors w.executions) (hwf : db.WellFormed)
    (hsem : Commits y (fun st => { w with executions := st }) w r w')
    (haccepted : o.accepted w = y.toBool)
    (hforward : ∀ a st, y = .ok (a, st) → w' = { w with executions := st } →
      ∃ db', db.perform rt w o = .ok db' ∧ db'.Mirrors st ∧ db'.WellFormed)
    (hbackward : ∀ db', db.perform rt w o = .ok db' → ∃ res, y = .ok res) :
    Follows rt db o w w' := by
  rcases hsem.cases with ⟨a, st, hy, -, hw'⟩ | ⟨e, hy, -, rfl⟩
  · obtain ⟨db', hperform, hmirrors, hwf'⟩ := hforward a st hy hw'
    refine ⟨?_, ?_, ?_⟩
    · rw [hperform, haccepted, hy]
      rfl
    · rw [after, hperform, hw']
      exact hmirrors
    · rw [after, hperform]
      exact hwf'
  · cases hperform : db.perform rt w' o with
    | ok db' =>
      obtain ⟨res, hres⟩ := hbackward db' hperform
      rw [hy] at hres
      cases hres
    | error e' =>
      refine ⟨?_, ?_, ?_⟩
      · rw [hperform, haccepted, hy]
        rfl
      · rw [after, hperform]
        exact hdb
      · rw [after, hperform]
        exact hwf

/-- One operation of a run whose operations are storable. -/
theorem follows_of_performs (h₀ : w₀.executions = .empty)
    {x y : Config Op.Resp Call Exn Reply World} {i : ℕ} {c : Call} {o : Op}
    (hx : ((system d).guarded fun _ o w => o.Storable d.rt w).Reachable w₀ x)
    (h : ((system d).guarded fun _ o w => o.Storable d.rt w).Performs i c o x y)
    (hdb : db.Mirrors x.state.executions) (hwf : db.WellFormed) :
    Follows d.rt db o x.state y.state := by
  have hempty : w₀.executions.Consistent := h₀ ▸ .empty
  have hreach : (system d).Reachable w₀ x := (system d).steps_of_guarded hx
  have hreach' : (system d).Reachable w₀ y :=
    (system d).steps_of_guarded (hx.tail (.perform i c o h))
  have hs := Execution.consistent_of_reachable hempty hreach
  have hissued := (Execution.guarantee_of_performs Execution.ensures_bare hempty hx h).2
  have hutt : ∀ id q, x.state.executions.plans.get? id = some q →
      x.state.knows q.uttId = true := by
    intro id q hq
    obtain ⟨e, he⟩ := utt_of_plan h₀ hreach hq
    rw [World.knows, he]
    rfl
  obtain ⟨k, r, -, hstep, -⟩ := h
  have hstorable : o.Storable d.rt x.state := hstep.1
  have hsem : World.sem d.rt o x.state r y.state := hstep.2
  by_cases hpart : o.part = .executions
  · cases o <;> simp only [Op.part, reduceCtorEq] at hpart
    case createPlan p =>
      obtain ⟨signedUtt, candidates, instant, hdraft⟩ := hissued
      refine follows_of_commits hdb hwf (sem_createPlan.mp hsem) rfl (fun q st hst hy => ?_) ?_
      · have hknown : x.state.knows p.uttId = true := by
          rcases ExecutionStore.createPlan_eq_ok hst with ⟨-, hid⟩ | ⟨-, -, rfl⟩
          · obtain ⟨q, hq, hqutt⟩ := hs.planOfUtt.mp hid
            exact hqutt ▸ hutt _ q hq
          · -- the new plan is stored after the step, which leaves the UTTs alone
            have hp : y.state.executions.plans.get? p.planId = some p := by
              rw [hy]
              exact Dict.get?_set_self _ _ _
            obtain ⟨e, he⟩ := utt_of_plan h₀ hreach' hp
            rw [hy] at he
            rw [World.knows, show x.state.contracts.utts.get? p.uttId = some e from he]
            rfl
        obtain ⟨row, db', hdb', hmirrors, hwf'⟩ :=
          createPlan_forward hdb hwf hs (Execution.new_of_draft hdraft) hstorable hknown hst
        refine ⟨db', ?_, hmirrors, hwf'⟩
        rw [perform, hdb']
        rfl
      · intro db' hdb'
        cases hcreate : db.createPlan d.rt x.state.knows p with
        | error e =>
          rw [perform, hcreate] at hdb'
          cases hdb'
        | ok res => exact createPlan_backward hdb hs hcreate
    case commitStart v p a =>
      refine follows_of_commits hdb hwf (sem_commitStart.mp hsem) rfl (fun _ st hst _ => ?_) ?_
      · exact commitStart_forward hdb hwf hs hissued hutt hstorable hst
      · exact fun db' hdb' => commitStart_backward hdb hissued hdb'
    case commitTransition v p a =>
      refine follows_of_commits hdb hwf (sem_commitTransition.mp hsem) rfl
        (fun _ st hst _ => ?_) ?_
      · exact commitTransition_forward hdb hwf hs hissued hstorable hst
      · exact fun db' hdb' => commitTransition_backward hdb hdb'
  · exact follows_of_part hdb hwf hpart hsem

theorem replay_append (rt : Runtime) (l : List (System.Event Call Op World))
    (e : System.Event Call Op World) :
    replay rt (l ++ [e]) = (replay rt l).after rt e.before e.op := by
  rw [replay, List.foldl_append]
  rfl

/-- Agreement extends to one more operation. -/
theorem AgreesOn.append {rt : Runtime} {l : List (System.Event Call Op World)}
    {e : System.Event Call Op World} (h : AgreesOn rt l)
    (he : Follows rt (replay rt l) e.op e.before e.after) : AgreesOn rt (l ++ [e]) := by
  intro l₁ e' l₂ hl
  rcases List.eq_nil_or_concat' l₂ with rfl | ⟨l₃, e'', rfl⟩
  · obtain ⟨rfl, hee⟩ := List.append_inj' hl rfl
    cases hee
    rw [replay_append]
    exact ⟨he.verdict, he.mirrors⟩
  · have hcut : l ++ [e] = (l₁ ++ e' :: l₃) ++ [e''] := by simpa using hl
    obtain ⟨hprior, -⟩ := List.append_inj' hcut rfl
    exact h l₁ e' l₃ hprior

end Runs

end PostgresExecutionStore

/-- In every run of the platform whose commits are storable, the in-memory store and the PostgreSQL
store accept the same commits, and after each of them hold the same plans and attempts. -/
theorem postgres_agrees {d : Deployment} {w₀ : World} {l : List (System.Event Call Op World)}
    {y : Config Op.Resp Call Exn Reply World} (h₀ : w₀.executions = .empty)
    (h : ((system d).guarded fun _ o w => o.Storable d.rt w).Trace ⟨w₀, []⟩ l y) :
    PostgresExecutionStore.AgreesOn d.rt l := by
  suffices hall : (PostgresExecutionStore.replay d.rt l).Mirrors y.state.executions ∧
      (PostgresExecutionStore.replay d.rt l).WellFormed ∧
      PostgresExecutionStore.AgreesOn d.rt l from hall.2.2
  -- along the run the tables mirror the store and stay well formed
  induction h with
  | nil =>
    refine ⟨?_, .empty, ?_⟩
    · change PostgresExecutionStore.Mirrors .empty w₀.executions
      rw [h₀]
      exact .empty
    · intro l₁ e l₂ hl
      simp at hl
  | spawn _ c ih => exact ih
  | perform htrace hp ih =>
    obtain ⟨hmirrors, hwf, hagrees⟩ := ih
    have hreach := System.steps_of_trace _ htrace
    have hfollows := PostgresExecutionStore.follows_of_performs h₀ hreach hp hmirrors hwf
    refine ⟨?_, ?_, hagrees.append hfollows⟩
    · rw [PostgresExecutionStore.replay_append]
      exact hfollows.mirrors
    · rw [PostgresExecutionStore.replay_append]
      exact hfollows.wellFormed

/-! ## Runs of the sample -/

namespace Sample

/-- The sample deployment, with digests that fit their columns. -/
def wideDeployment : Deployment := { deployment with rt := wideRuntime }

/-- The world of the sample, signed with these library functions. -/
def wideWorld : World :=
  { World.initial keys with
    contracts := { ContractStore.empty with
      utts := Dict.empty.set "UTT-1" (signed wideRuntime .utt uttPayload) } }

/-- A report that parks the first attempt. -/
def timeout : Call :=
  .recordFailure "RTT-6A556A556A556A556A556A556A556A55" "TIMEOUT" .reconciliationRequired 0 (.aware 0)

/-- The UTT is planned, and its first attempt is started. -/
def launched : List (Action Call) :=
  perform 0 (.buildPlan "UTT-1" [route "A" 100, route "B" 200] (.aware 0)) 4 ++
    perform 1 (.startNext "UTT-1" (.aware 0)) 6

/-- Two reports of the same timeout read the attempt before either of them parks it. -/
def parkedTwice : List (Action Call) :=
  launched ++ [.start timeout, .start timeout, .step 2, .step 3, .step 2, .step 2, .step 3, .step 3]

/-- The stores decide differently on the last operation of the run. -/
def disagree (rt : Runtime) (l : List (System.Event Call Op World)) : Bool :=
  l.getLast?.any fun e =>
    ((PostgresExecutionStore.replay rt l.dropLast).perform rt e.before e.op).toBool !=
      e.op.accepted e.before

theorem not_agreesOn_of_disagree {rt : Runtime} {l : List (System.Event Call Op World)}
    (h : disagree rt l = true) : ¬ PostgresExecutionStore.AgreesOn rt l := by
  intro hagrees
  unfold disagree at h
  cases he : l.getLast? with
  | none =>
    rw [he] at h
    cases h
  | some e =>
    have hl : l = l.dropLast ++ [e] := (List.dropLast_append_getLast? e he).symm
    have hverdict := (hagrees l.dropLast e [] hl).1
    simp [he, hverdict] at h

theorem disagree_parkedTwice :
    disagree wideRuntime (executed wideDeployment wideWorld parkedTwice) = true := by
  decide +kernel

/-- A check that implies `Op.Storable`. -/
def storable (rt : Runtime) : Op → World → Bool
  | .createPlan p, _ =>
    match p.snapshot rt with
    | .ok snapshot => (PlanRow.ofPlan p snapshot).fits
    | .error _ => false
  | .commitStart _ p a, w =>
    match a.signedRtt.header.strItem "payload_sha256" with
    | .ok sha => p.storable && p.failures.isEmpty && (AttemptRow.ofAttempt a sha).fits &&
        w.executions.attempts.values.isEmpty
    | .error _ => false
  | .commitTransition _ p a, _ =>
    p.storable && p.failures.isEmpty && a.storable && a.state == .succeeded &&
      p.previousRttId.all fun r => strip r == r
  | _, _ => true

theorem storable_of_check {rt : Runtime} {o : Op} {w : World} (h : storable rt o w = true) :
    o.Storable rt w := by
  cases o with
  | createPlan p =>
    simp only [storable] at h
    split at h
    · next snapshot hsnapshot => exact ⟨snapshot, hsnapshot, h⟩
    · cases h
  | commitStart v p a =>
    intro _
    simp only [storable] at h
    split at h
    · next sha hsha =>
      simp only [Bool.and_eq_true, List.isEmpty_iff] at h
      obtain ⟨⟨⟨hp, hfailures⟩, ha⟩, hnone⟩ := h
      refine ⟨⟨hp, by simp [ExecutionPlan.inWholeSeconds, hfailures]⟩, sha, hsha, ha, ?_⟩
      intro r b hb
      have hmem := Dict.mem_values.mpr ⟨r, hb⟩
      rw [hnone] at hmem
      cases hmem
    · cases h
  | commitTransition v p a =>
    intro _
    simp only [storable, Bool.and_eq_true, List.isEmpty_iff, beq_iff_eq, Option.all_eq_true] at h
    obtain ⟨⟨⟨⟨hp, hfailures⟩, ha⟩, hstate⟩, htrim⟩ := h
    refine ⟨⟨hp, by simp [ExecutionPlan.inWholeSeconds, hfailures]⟩, ha, htrim, ?_⟩
    intro b _ hparked
    rw [hstate] at hparked
    cases hparked.2
  | _ => trivial

/-- The answers of storable operations. -/
def storableAnswer (_ : Call) (o : Op) (w : World) : Option (o.Resp × World) :=
  if storable wideRuntime o w then some (w.answer wideRuntime oracle o) else none

theorem sem_of_storableAnswer (c : Call) (o : Op) (w : World) (r : o.Resp) (w' : World)
    (h : storableAnswer c o w = some (r, w')) :
    ((system wideDeployment).guarded fun _ o w => o.Storable wideRuntime w).sem c o w r w' := by
  unfold storableAnswer at h
  split at h
  · next hcheck =>
    have hsem := w.sem_answer wideRuntime oracle o
    rw [Option.some.inj h] at hsem
    exact ⟨storable_of_check hcheck, hsem⟩
  · cases h

/-- The first attempt is started and succeeds. -/
def settled : List (Action Call) :=
  launched ++ perform 2
    (.recordSuccess "RTT-6A556A556A556A556A556A556A556A55" 0 (.aware 0)) 3

/-- The operations of the run in which the first attempt succeeds. -/
def settledEvents : List (System.Event Call Op World) :=
  ((system wideDeployment).guarded fun _ o w => o.Storable wideRuntime w).events storableAnswer
    settled ⟨wideWorld, []⟩

end Sample

/-- Two reports that park one attempt: the in-memory store accepts both, the database only one. -/
theorem parked_twice_in_memory :
    ¬ ∀ (d : Deployment) (w₀ : World) (l : List (System.Event Call Op World))
      (y : Config Op.Resp Call Exn Reply World), w₀.executions = .empty →
        (system d).Trace ⟨w₀, []⟩ l y → PostgresExecutionStore.AgreesOn d.rt l := by
  intro hclaim
  have htrace := Sample.trace_execute Sample.wideDeployment Sample.wideWorld Sample.parkedTwice
  have hagrees := hclaim Sample.wideDeployment Sample.wideWorld _ _ rfl htrace
  exact Sample.not_agreesOn_of_disagree Sample.disagree_parkedTwice hagrees

/-- In the sample, both stores take the plan, the start and the success of its first attempt. -/
theorem postgres_agrees_sample :
    (PostgresExecutionStore.replay Sample.wideRuntime Sample.settledEvents).attempts.values.map
        AttemptRow.state = [.succeeded] ∧
      PostgresExecutionStore.AgreesOn Sample.wideRuntime Sample.settledEvents := by
  have htrace := System.trace_schedule (S := (system Sample.wideDeployment).guarded
    fun _ o w => o.Storable Sample.wideRuntime w) Sample.sem_of_storableAnswer Sample.settled
    (.nil (x := ⟨Sample.wideWorld, []⟩))
  rw [List.nil_append] at htrace
  exact ⟨by decide +kernel, postgres_agrees (d := Sample.wideDeployment) rfl htrace⟩

end RailOne
