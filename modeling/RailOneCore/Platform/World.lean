import RailOneCore.Library.Interleaving
import RailOneCore.Contracts.Models
import RailOneCore.Contracts.Store
import RailOneCore.Execution.Scoring
import RailOneCore.Execution.Store
import RailOneCore.Operations.Store
import RailOneCore.Institutions.Models
import RailOneCore.Projection.Store
import RailOneCore.Callbacks.Store
import RailOneCore.Notifications.Store

/-!
# The shared state and its operations

`World` is everything the services share: the key provider and the stores.  `Op` lists the steps that
the services take on it, one for each store method (the methods hold the store's lock, so they are
atomic) and one for each call into code that is not modelled.  `World.sem` says what a step may
answer and do.  Unmodelled code may answer anything.

Four fields of the world are history, written by steps and read by no service: the artifacts signed
so far, the calls of `adapter.submit`, the instructions handed to institution plugins, and the events
that a publisher has taken.
-/

namespace RailOne

open Concurrent

/-! ## Wiring -/

/-- How a service treats account endpoints: through a partner validator, or without one. -/
inductive EndpointPolicy
  | validated
  | unverified (allowed : Bool)
  deriving DecidableEq, Repr

/-- The constructor arguments of the services. -/
structure Deployment where
  rt : Runtime
  weights : RouteScoreWeights
  quoteEndpoints : EndpointPolicy
  attemptEndpoints : EndpointPolicy
  uttSigningKeyId : String
  authoritySigningKeyId : String
  rttSigningKeyId : String
  eventSigningKeyId : String
  settlementSigningKeyId : String
  /-- Whether the callback processor has a settlement service. -/
  settles : Bool
  utcOffsetMinutes : Int
  timezoneLabel : String
  /-- `get_secret()` of the ingress authenticator. -/
  ingressSecret : Except Exn ByteArray
  retryableResultCodes : List Int

/-! ## The world -/

/-- The state that the services share. -/
structure World where
  keys : KeyProvider
  contracts : ContractStore
  executions : ExecutionStore
  operations : OperationsStore
  inbox : InboxStore
  settlements : SettlementStore
  projections : ProjectionStore
  /-- History: the artifacts signed so far. -/
  signed : List SignatureEnvelope
  /-- History: the calls of `adapter.submit`. -/
  invocations : List (ProviderAdapter × ProviderExecutionRequest)
  /-- History: the instructions handed to institution plugins. -/
  instructions : List (AdapterDescriptor × InstitutionExecutionInstruction)
  /-- History: the events whose publication returned. -/
  published : List (String × Json)

/-- The world before anything has happened, with given keys. -/
def World.initial (keys : KeyProvider) : World :=
  ⟨keys, .empty, .empty, .empty, .empty, .empty, .empty, [], [], [], []⟩

/-! ## Operations -/

/-- A step of a service on the world. -/
inductive Op
  -- the signature service, over the key provider
  | sign (artifactType : ArtifactType) (payload : Fields) (keyId : String) (issuedAt : Instant)
  | verify (envelope : SignatureEnvelope) (expected : ArtifactType)
  -- the contract store
  | requireUtt (uttId : String)
  | resolveIdempotency (key requestSha256 : String)
  | commitAcceptance (key : String) (contract : AcceptedContract)
  -- the execution store
  | createPlan (plan : ExecutionPlan)
  | requirePlanForUtt (uttId : String)
  | requirePlan (planId : String)
  | requireAttempt (rttId : String)
  | commitStart (previousVersion : ℕ) (plan : ExecutionPlan) (attempt : RttAttemptRecord)
  | commitTransition (previousVersion : ℕ) (plan : ExecutionPlan) (attempt : RttAttemptRecord)
  -- the operations store
  | prepareSubmission (submission : ProviderSubmissionRecord) (event : OutboxRecord)
  | findByExternalReference (providerId externalReference : String)
  | transitionSubmission (previousVersion : ℕ) (submission : ProviderSubmissionRecord)
      (event : OutboxRecord)
  | claimOutbox (workerId : String) (at_ : Instant) (leaseSeconds limit : Int)
  | markPublished (eventId workerId : String) (at_ : Instant)
  | reschedule (eventId workerId : String) (at_ availableAt : Instant) (error : String)
      (maxAttempts : Int)
  -- the callback inbox, the settlement store and the projection store
  | ingest (providerId providerEventId payloadSha256 : String) (normalizedPayload : Fields)
      (signatureValid : Bool) (receivedAt : Instant)
  | markApplied (providerId providerEventId : String) (at_ : Instant)
  | commitSettlement (evidence : SettlementEvidenceRecord) (items : Notifications)
  | requireNotification (notificationId : String)
  | transitionNotification (previousVersion : ℕ) (notification : SmsNotificationRecord)
  | applyProjection (eventId eventPayloadSha256 : String) (projection : ProviderOutcomeProjection)
  -- code that is not modelled
  | validateEndpoint (actorId : Json) (endpoint : AccountEndpoint) (requiredRole : AccountRole)
      (currency : Json)
  | resolveEndpoint (institutionId accountBindingId : Json)
  | publish (eventId : String) (signedEvent : Json)
  /-- `adapter.submit` is called. -/
  | invokeAdapter (adapter : ProviderAdapter) (request : ProviderExecutionRequest)
  /-- An adapter that is not modelled answers. -/
  | adapterAnswer (adapter : ProviderAdapter) (request : ProviderExecutionRequest)
  | validateInstruction (descriptor : AdapterDescriptor)
      (instruction : InstitutionExecutionInstruction)
  | submitInstruction (descriptor : AdapterDescriptor)
      (instruction : InstitutionExecutionInstruction)
  | resolveSmsDestination (contactBindingId : String)
  | sendSms (idempotencyKey destination body : String)

/-- What an operation returns when it does not raise. -/
@[reducible] def Op.Ret : Op → Type
  | .sign .. => SignatureEnvelope
  | .verify .. => VerificationResult
  | .requireUtt .. => SignatureEnvelope
  | .resolveIdempotency .. => Option AcceptedContract
  | .commitAcceptance .. => AcceptedContract × Bool
  | .createPlan .. => ExecutionPlan
  | .requirePlanForUtt .. => ExecutionPlan
  | .requirePlan .. => ExecutionPlan
  | .requireAttempt .. => RttAttemptRecord
  | .commitStart .. => Unit
  | .commitTransition .. => Unit
  | .prepareSubmission .. => ProviderSubmissionRecord
  | .findByExternalReference .. => Option ProviderSubmissionRecord
  | .transitionSubmission .. => Unit
  | .claimOutbox .. => List OutboxRecord
  | .markPublished .. => OutboxRecord
  | .reschedule .. => OutboxRecord
  | .ingest .. => CallbackInboxRecord × Bool
  | .markApplied .. => CallbackInboxRecord
  | .commitSettlement .. => SettlementEvidenceRecord × Notifications × Bool
  | .requireNotification .. => SmsNotificationRecord
  | .transitionNotification .. => Unit
  | .applyProjection .. => Bool
  | .validateEndpoint .. => Unit
  | .resolveEndpoint .. => String
  | .publish .. => Unit
  | .invokeAdapter .. => Unit
  | .adapterAnswer .. => ProviderSubmissionResult
  | .validateInstruction .. => Unit
  | .submitInstruction .. => InstitutionSubmissionResult
  | .resolveSmsDestination .. => String
  | .sendSms .. => SmsGatewayResult

/-- The answer to an operation. -/
abbrev Op.Resp (o : Op) : Type := Except Exn o.Ret

/-- The code of a service call. -/
abbrev Code (α : Type) : Type := Prog Op.Resp Exn α

/-! ## What operations do -/

/-- The step answers `x` and leaves the world alone. -/
def Reads {α : Type} (x : Except Exn α) (w : World) (r : Except Exn α) (w' : World) : Prop :=
  r = x ∧ w' = w

/-- The step computes an answer and a new store; when it raises, the world stays as it is. -/
def Commits {α β : Type} (x : Except Exn (α × β)) (put : β → World) (w : World) (r : Except Exn α)
    (w' : World) : Prop :=
  match x with
  | .ok (a, st) => r = .ok a ∧ w' = put st
  | .error e => r = .error e ∧ w' = w

/-- A step that commits stores what it computed, or raises and stores nothing. -/
theorem Commits.cases {α β : Type} {x : Except Exn (α × β)} {put : β → World} {w w' : World}
    {r : Except Exn α} (h : Commits x put w r w') :
    (∃ a st, x = .ok (a, st) ∧ r = .ok a ∧ w' = put st) ∨
      ∃ e, x = .error e ∧ r = .error e ∧ w' = w := by
  unfold Commits at h
  split at h
  · exact .inl ⟨_, _, rfl, h⟩
  · exact .inr ⟨_, rfl, h⟩

/-- The world after a publisher has answered `r` for an event. -/
def World.taken (w : World) (eventId : String) (event : Json) (r : Except Exn Unit) : World :=
  match r with
  | .ok _ => { w with published := w.published ++ [(eventId, event)] }
  | .error _ => w

/-- What an operation, performed in `w`, may answer and leave. -/
def World.sem (rt : Runtime) (o : Op) (w : World) (r : o.Resp) (w' : World) : Prop :=
  match o, r with
  | .sign artifactType payload keyId issuedAt, r =>
    Commits ((SignatureService.signArtifact rt w.keys artifactType payload keyId issuedAt).map
      fun e => (e, e)) (fun e => { w with signed := w.signed ++ [e] }) w r w'
  | .verify e expected, r =>
    Reads (SignatureService.verifyArtifact rt w.keys e (some expected) false) w r w'
  | .requireUtt uttId, r => Reads (w.contracts.requireUtt uttId) w r w'
  | .resolveIdempotency key sha, r => Reads (w.contracts.resolveIdempotency key sha) w r w'
  | .commitAcceptance key contract, r =>
    Commits (w.contracts.commitAcceptance key contract) (fun st => { w with contracts := st }) w r w'
  | .createPlan plan, r =>
    Commits (w.executions.createPlan plan) (fun st => { w with executions := st }) w r w'
  | .requirePlanForUtt uttId, r => Reads (w.executions.requirePlanForUtt uttId) w r w'
  | .requirePlan planId, r => Reads (w.executions.requirePlan planId) w r w'
  | .requireAttempt rttId, r => Reads (w.executions.requireAttempt rttId) w r w'
  | .commitStart v plan attempt, r =>
    Commits (w.executions.commitStart v plan attempt) (fun st => { w with executions := st }) w r w'
  | .commitTransition v plan attempt, r =>
    Commits (w.executions.commitTransition v plan attempt)
      (fun st => { w with executions := st }) w r w'
  | .prepareSubmission submission event, r =>
    Commits (w.operations.prepare submission event) (fun st => { w with operations := st }) w r w'
  | .findByExternalReference providerId ref, r =>
    Reads (.ok (w.operations.findByExternalReference providerId ref)) w r w'
  | .transitionSubmission v submission event, r =>
    Commits (w.operations.transition v submission event)
      (fun st => { w with operations := st }) w r w'
  | .claimOutbox workerId at_ leaseSeconds limit, r =>
    Commits (w.operations.claimOutbox workerId at_ leaseSeconds limit)
      (fun st => { w with operations := st }) w r w'
  | .markPublished eventId workerId at_, r =>
    Commits (w.operations.markPublished eventId workerId at_)
      (fun st => { w with operations := st }) w r w'
  | .reschedule eventId workerId at_ availableAt error maxAttempts, r =>
    Commits (w.operations.reschedule eventId workerId at_ availableAt error maxAttempts)
      (fun st => { w with operations := st }) w r w'
  | .ingest providerId eventId sha payload valid at_, r =>
    Commits (w.inbox.ingest providerId eventId sha payload valid at_)
      (fun st => { w with inbox := st }) w r w'
  | .markApplied providerId eventId at_, r =>
    Commits (w.inbox.markApplied providerId eventId at_) (fun st => { w with inbox := st }) w r w'
  | .commitSettlement evidence items, r =>
    Commits (w.settlements.commitSettlement evidence items)
      (fun st => { w with settlements := st }) w r w'
  | .requireNotification id, r => Reads (w.settlements.requireNotification id) w r w'
  | .transitionNotification v notification, r =>
    Commits (w.settlements.transitionNotification v notification)
      (fun st => { w with settlements := st }) w r w'
  | .applyProjection eventId sha projection, r =>
    Commits (w.projections.apply eventId sha projection)
      (fun st => { w with projections := st }) w r w'
  | .invokeAdapter adapter request, r =>
    r = .ok () ∧ w' = { w with invocations := w.invocations ++ [(adapter, request)] }
  | .submitInstruction descriptor instruction, _ =>
    w' = { w with instructions := w.instructions ++ [(descriptor, instruction)] }
  | .validateEndpoint .., _ => w' = w
  | .resolveEndpoint .., _ => w' = w
  | .publish eventId event, r => w' = w.taken eventId event r
  | .adapterAnswer .., _ => w' = w
  | .validateInstruction .., _ => w' = w
  | .resolveSmsDestination .., _ => w' = w
  | .sendSms .., _ => w' = w

section Sem

variable {rt : Runtime} {w w' : World}

theorem sem_sign_ok {t : ArtifactType} {payload : Fields} {keyId : String} {at_ : Instant}
    {e : SignatureEnvelope} :
    World.sem rt (.sign t payload keyId at_) w (.ok e) w' ↔
      SignatureService.signArtifact rt w.keys t payload keyId at_ = .ok e ∧
        w' = { w with signed := w.signed ++ [e] } := by
  simp only [World.sem, Commits]
  cases SignatureService.signArtifact rt w.keys t payload keyId at_ with
  | error exn => simp [Except.map]
  | ok e' =>
    simp only [Except.map, Except.ok.injEq]
    constructor
    · rintro ⟨rfl, rfl⟩
      exact ⟨rfl, rfl⟩
    · rintro ⟨rfl, rfl⟩
      exact ⟨rfl, rfl⟩

theorem sem_requireUtt {id : String} {r : Except Exn SignatureEnvelope} :
    World.sem rt (.requireUtt id) w r w' ↔ Reads (w.contracts.requireUtt id) w r w' := Iff.rfl

theorem sem_requirePlanForUtt {id : String} {r : Except Exn ExecutionPlan} :
    World.sem rt (.requirePlanForUtt id) w r w' ↔
      Reads (w.executions.requirePlanForUtt id) w r w' := Iff.rfl

theorem sem_requirePlan {id : String} {r : Except Exn ExecutionPlan} :
    World.sem rt (.requirePlan id) w r w' ↔ Reads (w.executions.requirePlan id) w r w' := Iff.rfl

theorem sem_requireAttempt {id : String} {r : Except Exn RttAttemptRecord} :
    World.sem rt (.requireAttempt id) w r w' ↔
      Reads (w.executions.requireAttempt id) w r w' := Iff.rfl

theorem sem_createPlan {plan : ExecutionPlan} {r : Except Exn ExecutionPlan} :
    World.sem rt (.createPlan plan) w r w' ↔
      Commits (w.executions.createPlan plan) (fun st => { w with executions := st }) w r w' :=
  Iff.rfl

theorem sem_commitStart {v : ℕ} {plan : ExecutionPlan} {a : RttAttemptRecord}
    {r : Except Exn Unit} :
    World.sem rt (.commitStart v plan a) w r w' ↔
      Commits (w.executions.commitStart v plan a) (fun st => { w with executions := st }) w r w' :=
  Iff.rfl

theorem sem_commitTransition {v : ℕ} {plan : ExecutionPlan} {a : RttAttemptRecord}
    {r : Except Exn Unit} :
    World.sem rt (.commitTransition v plan a) w r w' ↔
      Commits (w.executions.commitTransition v plan a) (fun st => { w with executions := st })
        w r w' := Iff.rfl

theorem sem_prepareSubmission {s : ProviderSubmissionRecord} {row : OutboxRecord}
    {r : Except Exn ProviderSubmissionRecord} :
    World.sem rt (.prepareSubmission s row) w r w' ↔
      Commits (w.operations.prepare s row) (fun st => { w with operations := st }) w r w' :=
  Iff.rfl

theorem sem_transitionSubmission {v : ℕ} {s : ProviderSubmissionRecord} {row : OutboxRecord}
    {r : Except Exn Unit} :
    World.sem rt (.transitionSubmission v s row) w r w' ↔
      Commits (w.operations.transition v s row) (fun st => { w with operations := st }) w r w' :=
  Iff.rfl

theorem sem_claimOutbox {workerId : String} {at_ : Instant} {leaseSeconds limit : Int}
    {r : Except Exn (List OutboxRecord)} :
    World.sem rt (.claimOutbox workerId at_ leaseSeconds limit) w r w' ↔
      Commits (w.operations.claimOutbox workerId at_ leaseSeconds limit)
        (fun st => { w with operations := st }) w r w' := Iff.rfl

theorem sem_markPublished {eventId workerId : String} {at_ : Instant}
    {r : Except Exn OutboxRecord} :
    World.sem rt (.markPublished eventId workerId at_) w r w' ↔
      Commits (w.operations.markPublished eventId workerId at_)
        (fun st => { w with operations := st }) w r w' := Iff.rfl

theorem sem_reschedule {eventId workerId error : String} {at_ availableAt : Instant}
    {maxAttempts : Int} {r : Except Exn OutboxRecord} :
    World.sem rt (.reschedule eventId workerId at_ availableAt error maxAttempts) w r w' ↔
      Commits (w.operations.reschedule eventId workerId at_ availableAt error maxAttempts)
        (fun st => { w with operations := st }) w r w' := Iff.rfl

end Sem

/-! ## Frames -/

/-- The parts of the world that operations write. -/
inductive Part
  | signed | contracts | executions | operations | inbox | settlements | projections | invocations
  | instructions | published | nothing
  deriving DecidableEq, Repr

/-- The part of the world that an operation may write. -/
def Op.part : Op → Part
  | .sign .. => .signed
  | .commitAcceptance .. => .contracts
  | .createPlan .. | .commitStart .. | .commitTransition .. => .executions
  | .prepareSubmission .. | .transitionSubmission .. | .claimOutbox .. | .markPublished ..
  | .reschedule .. => .operations
  | .ingest .. | .markApplied .. => .inbox
  | .commitSettlement .. | .transitionNotification .. => .settlements
  | .applyProjection .. => .projections
  | .invokeAdapter .. => .invocations
  | .submitInstruction .. => .instructions
  | .publish .. => .published
  | .verify .. | .requireUtt .. | .resolveIdempotency .. | .requirePlanForUtt .. | .requirePlan ..
  | .requireAttempt .. | .findByExternalReference .. | .validateEndpoint .. | .resolveEndpoint ..
  | .adapterAnswer .. | .validateInstruction .. | .requireNotification ..
  | .resolveSmsDestination .. | .sendSms .. => .nothing

/-- Two worlds agree except on one part. -/
structure World.Frame (part : Part) (w w' : World) : Prop where
  keys : w'.keys = w.keys
  contracts : part ≠ .contracts → w'.contracts = w.contracts
  executions : part ≠ .executions → w'.executions = w.executions
  operations : part ≠ .operations → w'.operations = w.operations
  inbox : part ≠ .inbox → w'.inbox = w.inbox
  settlements : part ≠ .settlements → w'.settlements = w.settlements
  projections : part ≠ .projections → w'.projections = w.projections
  signed : part ≠ .signed → w'.signed = w.signed
  invocations : part ≠ .invocations → w'.invocations = w.invocations
  instructions : part ≠ .instructions → w'.instructions = w.instructions
  published : part ≠ .published → w'.published = w.published

theorem World.Frame.refl (part : Part) (w : World) : World.Frame part w w :=
  ⟨rfl, fun _ => rfl, fun _ => rfl, fun _ => rfl, fun _ => rfl, fun _ => rfl, fun _ => rfl,
    fun _ => rfl, fun _ => rfl, fun _ => rfl, fun _ => rfl⟩

/-- An operation writes only its part of the world. -/
theorem World.frame_of_sem {rt : Runtime} {o : Op} {w w' : World} {r : o.Resp}
    (h : World.sem rt o w r w') : World.Frame o.part w w' := by
  cases o <;> simp only [World.sem, Reads, Commits] at h
  case publish =>
    subst h
    unfold World.taken
    split
    · constructor <;> simp [Op.part]
    · exact .refl _ _
  all_goals first
    | (obtain ⟨-, rfl⟩ := h; exact .refl _ _)
    | (obtain ⟨-, rfl⟩ := h; constructor <;> simp [Op.part])
    | (split at h <;> obtain ⟨-, rfl⟩ := h
       · constructor <;> simp [Op.part]
       · exact .refl _ _)

/-- The operations under a guard. -/
def guardedSem (rt : Runtime) (guard : Op → World → Prop) (o : Op) (w : World) (r : o.Resp)
    (w' : World) : Prop :=
  guard o w ∧ World.sem rt o w r w'

/-! ## The steps, as the services write them -/

/-- Perform one operation. -/
def call (o : Op) : Code o.Ret := Prog.call o

namespace Code

/-- `sign_artifact`. -/
def sign (artifactType : ArtifactType) (payload : Fields) (keyId : String) (issuedAt : Instant) :
    Code SignatureEnvelope := call (.sign artifactType payload keyId issuedAt)

/-- `verify_artifact`, followed by the refusal of an invalid artifact. -/
def requireValid (envelope : SignatureEnvelope) (expected : ArtifactType) (what : String) :
    Code Unit := do
  let check : VerificationResult ← call (.verify envelope expected)
  require check.valid ⟨.permissionError, what ++ " rejected: " ++ check.reason⟩

def requireUtt (uttId : String) : Code SignatureEnvelope := call (.requireUtt uttId)

def resolveIdempotency (key requestSha256 : String) : Code (Option AcceptedContract) :=
  call (.resolveIdempotency key requestSha256)

def commitAcceptance (key : String) (contract : AcceptedContract) :
    Code (AcceptedContract × Bool) := call (.commitAcceptance key contract)

/-- `create_plan`: the UTT must be there, then the plan is stored under the lock. -/
def createPlan (plan : ExecutionPlan) : Code ExecutionPlan := do
  let _ ← requireUtt plan.uttId
  call (.createPlan plan)

def requirePlanForUtt (uttId : String) : Code ExecutionPlan := call (.requirePlanForUtt uttId)

def requirePlan (planId : String) : Code ExecutionPlan := call (.requirePlan planId)

def requireAttempt (rttId : String) : Code RttAttemptRecord := call (.requireAttempt rttId)

/-- `commit_start`: the UTT must be there, then plan and attempt are stored under the lock. -/
def commitStart (previousVersion : ℕ) (plan : ExecutionPlan) (attempt : RttAttemptRecord) :
    Code Unit := do
  let _ ← requireUtt plan.uttId
  call (.commitStart previousVersion plan attempt)

def commitTransition (previousVersion : ℕ) (plan : ExecutionPlan) (attempt : RttAttemptRecord) :
    Code Unit := call (.commitTransition previousVersion plan attempt)

def prepareSubmission (submission : ProviderSubmissionRecord) (event : OutboxRecord) :
    Code ProviderSubmissionRecord := call (.prepareSubmission submission event)

def findByExternalReference (providerId externalReference : String) :
    Code (Option ProviderSubmissionRecord) :=
  call (.findByExternalReference providerId externalReference)

def transitionSubmission (previousVersion : ℕ) (submission : ProviderSubmissionRecord)
    (event : OutboxRecord) : Code Unit :=
  call (.transitionSubmission previousVersion submission event)

def claimOutbox (workerId : String) (at_ : Instant) (leaseSeconds limit : Int) :
    Code (List OutboxRecord) := call (.claimOutbox workerId at_ leaseSeconds limit)

def markPublished (eventId workerId : String) (at_ : Instant) : Code OutboxRecord :=
  call (.markPublished eventId workerId at_)

def reschedule (eventId workerId : String) (at_ availableAt : Instant) (error : String)
    (maxAttempts : Int) : Code OutboxRecord :=
  call (.reschedule eventId workerId at_ availableAt error maxAttempts)

def publish (eventId : String) (signedEvent : Json) : Code Unit :=
  call (.publish eventId signedEvent)

def ingest (providerId providerEventId payloadSha256 : String) (normalizedPayload : Fields)
    (signatureValid : Bool) (receivedAt : Instant) : Code (CallbackInboxRecord × Bool) :=
  call (.ingest providerId providerEventId payloadSha256 normalizedPayload signatureValid receivedAt)

def markApplied (providerId providerEventId : String) (at_ : Instant) : Code CallbackInboxRecord :=
  call (.markApplied providerId providerEventId at_)

def commitSettlement (evidence : SettlementEvidenceRecord) (items : Notifications) :
    Code (SettlementEvidenceRecord × Notifications × Bool) :=
  call (.commitSettlement evidence items)

def requireNotification (notificationId : String) : Code SmsNotificationRecord :=
  call (.requireNotification notificationId)

def transitionNotification (previousVersion : ℕ) (notification : SmsNotificationRecord) :
    Code Unit := call (.transitionNotification previousVersion notification)

def applyProjection (eventId eventPayloadSha256 : String)
    (projection : ProviderOutcomeProjection) : Code Bool :=
  call (.applyProjection eventId eventPayloadSha256 projection)

def resolveEndpoint (institutionId accountBindingId : Json) : Code String :=
  call (.resolveEndpoint institutionId accountBindingId)

def validateEndpoint (actorId : Json) (endpoint : AccountEndpoint) (requiredRole : AccountRole)
    (currency : Json) : Code Unit :=
  call (.validateEndpoint actorId endpoint requiredRole currency)

end Code

/-! ## The operations of the short programs -/

@[simp] theorem ops_call {P : Op → Prop} {o : Op} : (call o).Ops P ↔ P o := Prog.ops_call

@[simp] theorem ops_requireUtt {P : Op → Prop} {id : String} :
    (Code.requireUtt id).Ops P ↔ P (.requireUtt id) := ops_call

@[simp] theorem ops_requirePlanForUtt {P : Op → Prop} {id : String} :
    (Code.requirePlanForUtt id).Ops P ↔ P (.requirePlanForUtt id) := ops_call

@[simp] theorem ops_requirePlan {P : Op → Prop} {id : String} :
    (Code.requirePlan id).Ops P ↔ P (.requirePlan id) := ops_call

@[simp] theorem ops_requireAttempt {P : Op → Prop} {id : String} :
    (Code.requireAttempt id).Ops P ↔ P (.requireAttempt id) := ops_call

@[simp] theorem ops_sign {P : Op → Prop} {t : ArtifactType} {payload : Fields} {key : String}
    {at_ : Instant} : (Code.sign t payload key at_).Ops P ↔ P (.sign t payload key at_) := ops_call

theorem ops_requireValid {P : Op → Prop} {e : SignatureEnvelope} {t : ArtifactType} {what : String}
    (h : P (.verify e t)) : (Code.requireValid e t what).Ops P :=
  Prog.Ops.bind (ops_call.mpr h) fun _ => Prog.ops_ret _

end RailOne
