import RailOneCore.Library.Schedule
import RailOneCore.Foundation.SampleRuntime
import RailOneCore.Contracts.Service
import RailOneCore.Execution.Service
import RailOneCore.Operations.Service

/-!
# The calls of the platform

`Call` lists the calls that clients and workers make on the services, and `system` runs any number of
them at once over one world: every store method, every signature and every call into code that is not
modelled is one step, and the steps of different calls interleave freely.

`World.answer` evaluates a step, with an oracle for the code that is not modelled, so that concrete
schedules can be executed.
-/

namespace RailOne

open Concurrent

/-- A call on one of the services. -/
inductive Call
  | issueQuote (terms : QuoteTerms) (signingKeyId : String) (issuedAt expiresAt : Datetime)
  | accept (command : QuoteAcceptanceCommand) (at_ : Datetime)
  | buildPlan (uttId : String) (candidates : List RouteCandidate) (at_ : Datetime)
  | startNext (uttId : String) (at_ : Datetime)
  | recordFailure (rttId failureCode : String) (disposition : FailureDisposition)
      (actualCostMinor : Int) (at_ : Datetime)
  | recordSuccess (rttId : String) (actualCostMinor : Int) (at_ : Datetime)
  | resolveReconciliation (rttId : String) (succeeded : Bool) (actualCostMinor : Int)
      (failureCode : Option String) (failureDisposition : FailureDisposition) (at_ : Datetime)
  | prepare (rttId : String) (at_ : Datetime)
  | dispatch (rttId : String) (adapter : ProviderAdapter) (at_ : Datetime)
  | publishBatch (relay : OutboxRelay) (limit : Int) (at_ : Datetime)

/-- What a call returns. -/
inductive Reply
  | quote (e : SignatureEnvelope)
  | accepted (result : QuoteAcceptanceResult)
  | plan (p : ExecutionPlan)
  | attempt (a : RttAttemptRecord)
  | prepared (s : ProviderSubmissionRecord) (request : ProviderExecutionRequest)
  | submission (s : ProviderSubmissionRecord)
  | published (rows : List OutboxRecord)

/-- The program of a call. -/
def Call.body (d : Deployment) : Call → Code Reply
  | .issueQuote terms keyId issuedAt expiresAt =>
    Reply.quote <$> QuoteService.issueQuote d terms keyId issuedAt expiresAt
  | .accept command at_ => Reply.accepted <$> QuoteAcceptanceService.accept d command at_
  | .buildPlan uttId candidates at_ =>
    Reply.plan <$> ExecutionPlanningService.buildPlan d uttId candidates at_
  | .startNext uttId at_ => Reply.attempt <$> RttAttemptService.startNext d uttId at_
  | .recordFailure rttId code disposition cost at_ =>
    Reply.plan <$> RttAttemptService.recordFailure d rttId code disposition cost at_
  | .recordSuccess rttId cost at_ => Reply.plan <$> RttAttemptService.recordSuccess rttId cost at_
  | .resolveReconciliation rttId succeeded cost code disposition at_ =>
    Reply.plan <$>
      RttAttemptService.resolveReconciliation d rttId succeeded cost code disposition at_
  | .prepare rttId at_ =>
    (fun p => Reply.prepared p.1 p.2) <$> ProviderSubmissionCoordinator.prepare d rttId at_
  | .dispatch rttId adapter at_ =>
    Reply.submission <$> ProviderSubmissionCoordinator.dispatch d rttId adapter at_
  | .publishBatch relay limit at_ => Reply.published <$> relay.publishBatch limit at_

/-- The platform: any number of calls over one world. -/
def system (d : Deployment) : System Op.Resp Call Exn Reply World where
  body := Call.body d
  sem _ := World.sem d.rt

/-! ## Executing steps -/

/-- Apply a step that computes an answer and a new store. -/
def World.commit {α β : Type} (w : World) (x : Except Exn (α × β)) (put : β → World) :
    Except Exn α × World :=
  match x with
  | .ok (a, st) => (.ok a, put st)
  | .error e => (.error e, w)

/-- Evaluate a step.  Code that is not modelled answers as the oracle says. -/
def World.answer (rt : Runtime) (oracle : (o : Op) → o.Resp) (w : World) (o : Op) :
    o.Resp × World :=
  match o with
  | .sign artifactType payload keyId issuedAt =>
    w.commit ((SignatureService.signArtifact rt w.keys artifactType payload keyId issuedAt).map
      fun e => (e, e)) fun e => { w with signed := w.signed ++ [e] }
  | .verify e expected => (SignatureService.verifyArtifact rt w.keys e (some expected) false, w)
  | .requireUtt uttId => (w.contracts.requireUtt uttId, w)
  | .resolveIdempotency key sha => (w.contracts.resolveIdempotency key sha, w)
  | .commitAcceptance key contract =>
    w.commit (w.contracts.commitAcceptance key contract) fun st => { w with contracts := st }
  | .createPlan plan => w.commit (w.executions.createPlan plan) fun st => { w with executions := st }
  | .requirePlanForUtt uttId => (w.executions.requirePlanForUtt uttId, w)
  | .requirePlan planId => (w.executions.requirePlan planId, w)
  | .requireAttempt rttId => (w.executions.requireAttempt rttId, w)
  | .commitStart v plan attempt =>
    w.commit (w.executions.commitStart v plan attempt) fun st => { w with executions := st }
  | .commitTransition v plan attempt =>
    w.commit (w.executions.commitTransition v plan attempt) fun st => { w with executions := st }
  | .prepareSubmission submission event =>
    w.commit (w.operations.prepare submission event) fun st => { w with operations := st }
  | .findByExternalReference providerId ref =>
    (.ok (w.operations.findByExternalReference providerId ref), w)
  | .transitionSubmission v submission event =>
    w.commit (w.operations.transition v submission event) fun st => { w with operations := st }
  | .claimOutbox workerId at_ leaseSeconds limit =>
    w.commit (w.operations.claimOutbox workerId at_ leaseSeconds limit)
      fun st => { w with operations := st }
  | .markPublished eventId workerId at_ =>
    w.commit (w.operations.markPublished eventId workerId at_) fun st => { w with operations := st }
  | .reschedule eventId workerId at_ availableAt error maxAttempts =>
    w.commit (w.operations.reschedule eventId workerId at_ availableAt error maxAttempts)
      fun st => { w with operations := st }
  | .ingest providerId eventId sha payload valid at_ =>
    w.commit (w.inbox.ingest providerId eventId sha payload valid at_)
      fun st => { w with inbox := st }
  | .markApplied providerId eventId at_ =>
    w.commit (w.inbox.markApplied providerId eventId at_) fun st => { w with inbox := st }
  | .commitSettlement evidence items =>
    w.commit (w.settlements.commitSettlement evidence items) fun st => { w with settlements := st }
  | .requireNotification id => (w.settlements.requireNotification id, w)
  | .transitionNotification v notification =>
    w.commit (w.settlements.transitionNotification v notification)
      fun st => { w with settlements := st }
  | .applyProjection eventId sha projection =>
    w.commit (w.projections.apply eventId sha projection) fun st => { w with projections := st }
  | .invokeAdapter adapter request =>
    (.ok (), { w with invocations := w.invocations ++ [(adapter, request)] })
  | .submitInstruction descriptor instruction =>
    (oracle (.submitInstruction descriptor instruction),
      { w with instructions := w.instructions ++ [(descriptor, instruction)] })
  | .validateEndpoint actorId endpoint role currency =>
    (oracle (.validateEndpoint actorId endpoint role currency), w)
  | .resolveEndpoint institutionId bindingId => (oracle (.resolveEndpoint institutionId bindingId), w)
  | .publish eventId event =>
    (oracle (.publish eventId event), w.taken eventId event (oracle (.publish eventId event)))
  | .adapterAnswer adapter request => (oracle (.adapterAnswer adapter request), w)
  | .validateInstruction descriptor instruction =>
    (oracle (.validateInstruction descriptor instruction), w)
  | .resolveSmsDestination contactBindingId => (oracle (.resolveSmsDestination contactBindingId), w)
  | .sendSms key destination body => (oracle (.sendSms key destination body), w)

theorem commits_commit {α β : Type} {w : World} {x : Except Exn (α × β)} {put : β → World} :
    Commits x put w (w.commit x put).1 (w.commit x put).2 := by
  cases x with
  | ok p => exact ⟨rfl, rfl⟩
  | error e => exact ⟨rfl, rfl⟩

/-- What is evaluated is what a step may answer and do. -/
theorem World.sem_answer (rt : Runtime) (oracle : (o : Op) → o.Resp) (w : World) (o : Op) :
    World.sem rt o w (w.answer rt oracle o).1 (w.answer rt oracle o).2 := by
  cases o
  all_goals first
    | exact commits_commit
    | exact ⟨rfl, rfl⟩
    | exact rfl

/-! ## A sample deployment

A small world to execute schedules in: one accepted UTT with two routes, all keys active. -/

namespace Sample

/-- The sample deployment. -/
def deployment : Deployment where
  rt := runtime
  weights := .default
  quoteEndpoints := .unverified true
  attemptEndpoints := .unverified true
  uttSigningKeyId := "EXEC"
  authoritySigningKeyId := "EXEC"
  rttSigningKeyId := "EXEC"
  eventSigningKeyId := "EXEC"
  settlementSigningKeyId := "SETTLE"
  settles := true
  utcOffsetMinutes := 180
  timezoneLabel := "EAT"
  ingressSecret := .ok ByteArray.empty
  retryableResultCodes := []

theorem active_keyRecord : (0 : Instant) < seconds 5000000000 := by decide

/-- A key that is active until some time in the next century. -/
def keyRecord (keyId : String) (purpose : KeyPurpose) : KeyRecord where
  keyId := keyId
  ownerId := "RAILONE"
  purpose := purpose
  publicKey := ByteArray.empty
  status := .active
  notBefore := 0
  notAfter := seconds 5000000000
  window := active_keyRecord

/-- The keys of the sample. -/
def keys : KeyProvider where
  records := (Ordered.Dict.empty.set "EXEC" (keyRecord "EXEC" .executionSigning)).set "SETTLE"
    (keyRecord "SETTLE" .settlementSigning)
  privateKeys := (Ordered.Dict.empty.set "EXEC" ByteArray.empty).set "SETTLE" ByteArray.empty

/-- One party of the sample payment. -/
def party (actorId institutionId bindingId : String) : Json :=
  .obj [("actor_id", .str actorId), ("endpoint", .obj
    [("institution_id", .str institutionId), ("account_binding_id", .str bindingId)])]

/-- The terms of the sample UTT that the services read. -/
def uttPayload : Fields :=
  [("utt_id", .str "UTT-1"), ("amount_minor", .int 150000), ("currency_from", .str "KES"),
    ("receive_amount_minor", .int 150000), ("currency_to", .str "KES"),
    ("routing_budget_minor", .int 100), ("routing_policy_id", .str "P1"),
    ("max_attempts", .int 3), ("payer", party "ALICE" "BANK-A" "ACC-1"),
    ("beneficiary", party "BOB" "BANK-B" "ACC-2"), ("endpoint_model_version", .int 1)]

/-- The signed UTT of the sample. -/
def utt : SignatureEnvelope :=
  (SignatureService.signArtifact runtime keys .utt uttPayload "EXEC" 0).toOption.getD default

/-- The world of the sample: the UTT has been accepted, and nothing has been planned. -/
def world : World :=
  { World.initial keys with
    contracts := { ContractStore.empty with utts := Ordered.Dict.empty.set "UTT-1" utt } }

/-- A route of the sample. -/
def route (routeId : String) (latencyMs : Int) : RouteCandidate where
  routeId := routeId
  sourceInstitutionId := "BANK-A"
  destinationInstitutionId := "BANK-B"
  rail := "MOBILE"
  provider := "MPESA"
  adapter := "MPESA@1"
  currencyFrom := "KES"
  currencyTo := "KES"
  minAmountMinor := 1
  maxAmountMinor := 1000000
  latencyMs := latencyMs
  congestionBps := 0
  liquidityCapacityMinor := 1000000
  throughputHeadroomBps := 0
  speedBps := 0
  estimatedCostMinor := 10
  linkStatus := .up
  telemetryObservedAt := .aware 0
  telemetryExpiresAt := .aware (seconds 1000)

/-- The answers of code that is not modelled: every endpoint is there, and the provider accepts. -/
def oracle : (o : Op) → o.Resp
  | .validateEndpoint .. => .ok ()
  | .resolveEndpoint .. => .ok "ACCOUNT"
  | .publish .. => .ok ()
  | .adapterAnswer .. => .ok ⟨.accepted, "ACCEPTED", some "CONV-1", none, []⟩
  | .validateInstruction .. => .ok ()
  | .submitInstruction .. => .ok ⟨.acceptedForProcessing, "ACCEPTED", some "CONV-1"⟩
  | _ => .error ⟨.external, "Unreachable"⟩

/-- The answers of the steps that are allowed. -/
def answer (allowed : Call → Op → World → Bool) (c : Call) (o : Op) (w : World) :
    Option (o.Resp × World) :=
  if allowed c o w then some (w.answer runtime oracle o) else none

theorem sem_of_answer (allowed : Call → Op → World → Bool) (c : Call) (o : Op) (w : World)
    (r : o.Resp) (w' : World) (h : answer allowed c o w = some (r, w')) :
    ((system deployment).guarded fun c o w => allowed c o w = true).sem c o w r w' := by
  unfold answer at h
  split_ifs at h with hallowed
  have hsem := w.sem_answer runtime oracle o
  rw [Option.some.inj h] at hsem
  exact ⟨hallowed, hsem⟩

/-- The configuration that a schedule leads to. -/
def run (allowed : Call → Op → World → Bool) (actions : List (Action Call)) :
    Config Op.Resp Call Exn Reply World :=
  (system deployment).schedule (answer allowed) actions ⟨world, []⟩

theorem reachable_run (allowed : Call → Op → World → Bool) (actions : List (Action Call)) :
    ((system deployment).guarded fun c o w => allowed c o w = true).Reachable world
      (run allowed actions) :=
  System.steps_schedule (sem_of_answer allowed) actions _

/-- The world after calls have been executed one after another. -/
def runAll (calls : List Call) : World :=
  calls.foldl (fun w c => ((c.body deployment).run (fun o w => w.answer runtime oracle o) w).2) world

theorem sequentially_runAll {A : Call → Prop} {calls : List Call} (h : ∀ c ∈ calls, A c) :
    (system deployment).Sequentially A world (runAll calls) := by
  have haux : ∀ w, (system deployment).Sequentially A world w →
      (system deployment).Sequentially A world (calls.foldl
        (fun w c => ((c.body deployment).run (fun o w => w.answer runtime oracle o) w).2) w) := by
    induction calls with
    | nil => exact fun _ hw => hw
    | cons c calls ih =>
      refine fun w hw => ih (fun c' hc' => h c' (List.mem_cons_of_mem _ hc')) _ ?_
      exact .call hw c _ (h c List.mem_cons_self)
        (Prog.runs_run (fun o w => w.sem_answer runtime oracle o) _ w)
  exact haux world .nil

/-- Start a call as the `i`-th one and let it take `n` steps. -/
def perform (i : ℕ) (c : Call) (n : ℕ) : List (Action Call) := .start c :: List.replicate n (.step i)

/-! ### Digests without collisions -/

/-- The sample deployment, with digests that never collide. -/
def exactDeployment : Deployment := { deployment with rt := exactRuntime }

/-! ### An attempt in flight -/

/-- An artifact of the sample, signed with given library functions. -/
def signed (rt : Runtime) (artifactType : ArtifactType) (payload : Fields) : SignatureEnvelope :=
  (SignatureService.signArtifact rt keys artifactType payload "EXEC" 0).toOption.getD default

/-- The payload of the sample RTT. -/
def rttPayload (rt : Runtime) : Fields :=
  [("utt_payload_sha256", ((signed rt .utt uttPayload).header.get "payload_sha256").getD .null),
    ("route", .obj [("provider", .str "MPESA"), ("adapter", .str "MPESA@1"),
      ("rail", .str "MOBILE")])]

/-- The attempt of the sample. -/
def attempt (rt : Runtime) : RttAttemptRecord where
  rttId := "RTT-1"
  uttId := "UTT-1"
  planId := "PLAN-1"
  attemptNumber := 1
  routeId := "R1"
  signedRtt := signed rt .rtt (rttPayload rt)
  state := .created
  failureCode := none
  actualCostMinor := none
  createdAt := 0
  updatedAt := 0

/-- The plan of the sample, with its attempt in flight. -/
def plan : ExecutionPlan where
  planId := "PLAN-1"
  uttId := "UTT-1"
  rankedRoutes := []
  remainingRouteIds := []
  failures := []
  attemptsUsed := 1
  maxAttempts := 3
  routingBudgetMinor := 100
  routingCostSpentMinor := 0
  currentRttId := some "RTT-1"
  previousRttId := none
  previousRouteId := none
  status := .active
  successfulRouteId := none
  version := 2
  createdAt := 0
  updatedAt := 0

/-- The world of the sample with an attempt in flight. -/
def inFlightWorld (rt : Runtime) : World :=
  { World.initial keys with
    contracts := { ContractStore.empty with utts := Ordered.Dict.empty.set "UTT-1" (signed rt .utt uttPayload) }
    executions :=
      { ExecutionStore.empty with
        plans := Ordered.Dict.empty.set "PLAN-1" plan
        attempts := Ordered.Dict.empty.set "RTT-1" (attempt rt) } }

/-- One worker crashes in the middle of its dispatch, and two others take over. -/
def takeover : List (Action Call) :=
  perform 0 (.dispatch "RTT-1" (.plain "MPESA" false) (.aware 0)) 12 ++
    perform 1 (.dispatch "RTT-1" (.plain "MPESA" false) (.aware 0)) 20 ++
    perform 2 (.dispatch "RTT-1" (.plain "MPESA" false) (.aware 0)) 20

/-- The configuration that a schedule leads to from a given world. -/
def execute (d : Deployment) (w : World) (actions : List (Action Call)) :
    Config Op.Resp Call Exn Reply World :=
  (system d).schedule (fun _ o w => some (w.answer d.rt oracle o)) actions ⟨w, []⟩

/-- The operations that a schedule performs from a given world. -/
def executed (d : Deployment) (w : World) (actions : List (Action Call)) :
    List (System.Event Call Op World) :=
  (system d).events (fun _ o w => some (w.answer d.rt oracle o)) actions ⟨w, []⟩

theorem trace_execute (d : Deployment) (w : World) (actions : List (Action Call)) :
    (system d).Trace ⟨w, []⟩ (executed d w actions) (execute d w actions) := by
  refine System.trace_schedule (fun c o s r s' h => ?_) actions .nil
  have hsem := s.sem_answer d.rt oracle o
  rw [Option.some.inj h] at hsem
  exact hsem

theorem reachable_execute (d : Deployment) (w : World) (actions : List (Action Call)) :
    (system d).Reachable w (execute d w actions) := by
  exact (system d).steps_of_trace (trace_execute d w actions)

/-- The calls of an executed schedule are those that it starts. -/
theorem call_mem_execute {d : Deployment} {w : World} {actions : List (Action Call)}
    {t : Thread Op.Resp Call Exn Reply} (ht : t ∈ (execute d w actions).threads) :
    .start t.call ∈ actions := by
  rcases System.call_mem_schedule _ ht with h | ⟨_, h, -⟩
  · exact h
  · cases h

end Sample

end RailOne
