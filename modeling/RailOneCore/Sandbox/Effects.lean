import RailOneCore.Operations.Models
import RailOneCore.Sandbox.Store

/-!
# The simulated provider

The code of `SandboxEffectBroker`: it answers submissions by the scenario of their RTT and schedules what
the provider would do later.  Its memory, the scenarios and the submissions it has answered, lives as
long as the broker; the effects are in a store that outlives it.

The broker and the workers act on the store in steps: each method of the store is one, and so is each call
of a worker's consumer, which is not modelled and may do anything.
-/

namespace RailOne

open Concurrent Ordered

/-! ## Steps -/

/-- A call of the consumer. -/
structure HandOver where
  effect : ScheduledProviderEffect
  tick : Int
  outcome : Except Exn Unit
  deriving DecidableEq

/-- What workers share: the store and, as history, the calls of the consumer. -/
structure EffectWorld where
  store : InMemorySandboxEffectStore
  /-- History: what has been handed to the consumer. -/
  handed : List HandOver

/-- A step of the broker or of a worker. -/
inductive EffectOp
  | currentTick
  | schedule (record : ProviderEffectRecord)
  | advanceAndClaim (workerId : String) (ticks leaseTicks limit : Int)
  | markDelivered (effectId workerId : String)
  | reschedule (effectId workerId : String) (delayTicks : Int) (error : String) (maxAttempts : Int)
  /-- `consumer.apply`. -/
  | apply (effect : ScheduledProviderEffect)

namespace EffectOp

/-- What a step answers, if it does not raise. -/
abbrev Ret : EffectOp → Type
  | .currentTick => Int
  | .schedule .. | .markDelivered .. | .reschedule .. => ProviderEffectRecord
  | .advanceAndClaim .. => List ProviderEffectRecord
  | .apply .. => Unit

abbrev Resp (o : EffectOp) : Type := Except Exn o.Ret

end EffectOp

/-- A method of the store commits, or raises and changes nothing. -/
def InMemorySandboxEffectStore.commit {α : Type} (st : InMemorySandboxEffectStore)
    (x : Except Exn (α × InMemorySandboxEffectStore)) : Except Exn α × InMemorySandboxEffectStore :=
  match x with
  | .ok (a, st') => (.ok a, st')
  | .error exn => (.error exn, st)

/-- What the store answers to a step and does.  A call of the consumer does not concern it. -/
def EffectOp.answer : (o : EffectOp) → InMemorySandboxEffectStore → o.Resp × InMemorySandboxEffectStore
  | .currentTick, st => (.ok st.tick, st)
  | .schedule record, st => st.commit (st.schedule record)
  | .advanceAndClaim workerId ticks leaseTicks limit, st =>
    st.commit (st.advanceAndClaim workerId ticks leaseTicks limit)
  | .markDelivered effectId workerId, st => st.commit (st.markDelivered effectId workerId)
  | .reschedule effectId workerId delayTicks error maxAttempts, st =>
    st.commit (st.reschedule effectId workerId delayTicks error maxAttempts)
  | .apply _, st => (.ok (), st)

/-- What a step may answer and do.  The consumer may return or raise. -/
def EffectWorld.sem : (o : EffectOp) → EffectWorld → o.Resp → EffectWorld → Prop
  | .apply effect, w, r, w' => w' = { w with handed := w.handed ++ [⟨effect, w.store.tick, r⟩] }
  | o, w, r, w' => o.answer w.store = (r, w'.store) ∧ w'.handed = w.handed

/-! ## Programs -/

/-- Code that takes steps on the effects. -/
abbrev EffectCode : Type → Type := Prog EffectOp.Resp Exn

namespace EffectCode

/-- Take one step. -/
def perform (o : EffectOp) : EffectCode o.Ret := Prog.call o

def currentTick : EffectCode Int := perform .currentTick

def schedule (record : ProviderEffectRecord) : EffectCode ProviderEffectRecord :=
  perform (.schedule record)

def advanceAndClaim (workerId : String) (ticks leaseTicks limit : Int) :
    EffectCode (List ProviderEffectRecord) := perform (.advanceAndClaim workerId ticks leaseTicks limit)

def markDelivered (effectId workerId : String) : EffectCode ProviderEffectRecord :=
  perform (.markDelivered effectId workerId)

def reschedule (effectId workerId : String) (delayTicks : Int) (error : String) (maxAttempts : Int) :
    EffectCode ProviderEffectRecord :=
  perform (.reschedule effectId workerId delayTicks error maxAttempts)

def apply (effect : ScheduledProviderEffect) : EffectCode Unit := perform (.apply effect)

end EffectCode

/-! ## Steps and the queue -/

namespace EffectOp

/-- What the step is for the queue of effects. -/
def act : EffectOp → Leases.Act String String
  | .currentTick | .schedule _ | .apply _ => .other
  | .advanceAndClaim workerId .. => .claim workerId
  | .markDelivered effectId workerId => .acknowledge effectId workerId
  | .reschedule effectId workerId .. => .release effectId workerId

/-- The step schedules nothing but new effects. -/
def SchedulesFresh (o : EffectOp) : Prop :=
  ∀ record, o = .schedule record → ∃ effect, record = .scheduled effect

variable {o : EffectOp} {st st' : InMemorySandboxEffectStore} {r : o.Resp}

/-- A method of the store commits, or leaves it alone. -/
theorem commit_eq {α : Type} {x : Except Exn (α × InMemorySandboxEffectStore)} {a : Except Exn α}
    (h : st.commit x = (a, st')) :
    (∃ b, x = .ok (b, st') ∧ a = .ok b) ∨ ∃ exn, x = .error exn ∧ a = .error exn ∧ st' = st := by
  unfold InMemorySandboxEffectStore.commit at h
  split at h
  · cases h
    exact .inl ⟨_, rfl, rfl⟩
  · cases h
    exact .inr ⟨_, rfl, rfl, rfl⟩

/-- Every step moves the store as a queue, and no step turns the clock back. -/
theorem moves_answer (hst : st.Consistent) (ho : o.SchedulesFresh) (h : o.answer st = (r, st')) :
    InMemorySandboxEffectStore.QueueMoves st'.tick o.act st st' ∧ st.tick ≤ st'.tick := by
  cases o with
  | currentTick | apply =>
    cases h
    exact ⟨.refl _ _ _ _ _, le_rfl⟩
  | schedule record =>
    obtain ⟨effect, rfl⟩ := ho record rfl
    rcases commit_eq h with ⟨stored, hst', -⟩ | ⟨-, -, -, rfl⟩
    · refine ⟨InMemorySandboxEffectStore.moves_schedule hst', ?_⟩
      rcases InMemorySandboxEffectStore.schedule_eq_ok hst' with ⟨rfl, -⟩ | ⟨-, -, rfl⟩ <;> exact le_rfl
    · exact ⟨.refl _ _ _ _ _, le_rfl⟩
  | advanceAndClaim workerId ticks leaseTicks limit =>
    rcases commit_eq h with ⟨rows, hst', -⟩ | ⟨-, -, -, rfl⟩
    · refine ⟨InMemorySandboxEffectStore.moves_advanceAndClaim hst.keyed hst', ?_⟩
      obtain ⟨-, -, -, hticks, rfl⟩ :=
        InMemorySandboxEffectStore.advanceAndClaim_eq_ok hst.keyed hst'
      exact Int.le_add_of_nonneg_right (by omega)
    · exact ⟨.refl _ _ _ _ _, le_rfl⟩
  | markDelivered effectId workerId =>
    rcases commit_eq h with ⟨updated, hst', -⟩ | ⟨-, -, -, rfl⟩
    · refine ⟨InMemorySandboxEffectStore.moves_markDelivered hst', ?_⟩
      simp only [InMemorySandboxEffectStore.markDelivered, bind_eq_ok, pure_eq_ok, Prod.mk.injEq] at hst'
      obtain ⟨_, -, -, rfl⟩ := hst'
      exact le_rfl
    · exact ⟨.refl _ _ _ _ _, le_rfl⟩
  | reschedule effectId workerId delayTicks error maxAttempts =>
    rcases commit_eq h with ⟨updated, hst', -⟩ | ⟨-, -, -, rfl⟩
    · refine ⟨InMemorySandboxEffectStore.moves_reschedule hst', ?_⟩
      unfold InMemorySandboxEffectStore.reschedule at hst'
      split_ifs at hst'
      simp only [bind_eq_ok, pure_eq_ok, Prod.mk.injEq] at hst'
      obtain ⟨_, -, -, rfl⟩ := hst'
      exact le_rfl
    · exact ⟨.refl _ _ _ _ _, le_rfl⟩

end EffectOp

/-! ## The text of payloads -/

/-- `\uXXXX`. -/
def unicodeEscape (n : ℕ) : List Char :=
  ['\\', 'u', CanonicalJson.hexDigit (n / 4096), CanonicalJson.hexDigit (n / 256 % 16),
    CanonicalJson.hexDigit (n / 16 % 16), CanonicalJson.hexDigit (n % 16)]

/-- A character of JSON text with `ensure_ascii`: characters outside the printable ASCII ones are
escaped, those beyond the basic plane as a surrogate pair. -/
def asciiChar (c : Char) : List Char :=
  if ' ' ≤ c ∧ c ≤ '~' then [c]
  else if c.toNat < 0x10000 then unicodeEscape c.toNat
  else unicodeEscape (0xd800 + (c.toNat - 0x10000) / 0x400) ++
    unicodeEscape (0xdc00 + (c.toNat - 0x10000) % 0x400)

/-- `json.dumps(value, separators=(",", ":"), sort_keys=True).encode("utf-8")`. -/
def jsonDumps (value : Json) : ByteArray :=
  utf8Bytes ((CanonicalJson.dumps (CanonicalJson.sortKeys value)).flatMap asciiChar)

/-! ## The broker -/

/-- What a broker remembers: the scenarios of RTTs, and the digests and results of the requests that it
has answered, by provider and idempotency key. -/
structure SandboxEffectBroker where
  scenarios : Dict String EffectScenario
  submissions : Dict (String × String) (String × ProviderSubmissionResult)

namespace SandboxEffectBroker

/-- A new broker. -/
def empty : SandboxEffectBroker := ⟨.empty, .empty⟩

/-- `set_scenario`, which looks for the RTT among the idempotency keys. -/
def setScenario (broker : SandboxEffectBroker) (rttId : String) (scenario : EffectScenario) :
    Except Exn SandboxEffectBroker :=
  if broker.submissions.entries.any (fun e => e.1.2 == rttId) then
    .error ⟨.runtimeError, "scenario cannot change after provider submission"⟩
  else .ok { broker with scenarios := broker.scenarios.set rttId scenario }

/-- The scenario of an RTT. -/
def scenarioOf (broker : SandboxEffectBroker) (rttId : String) : EffectScenario :=
  (broker.scenarios.get? rttId).getD .success

/-- `text.startswith("SIM-")`. -/
def isSynthetic (text : String) : Bool := decide ("SIM-".toList <+: text.toList)

/-- `_validate_synthetic`. -/
def validateSynthetic (request : ProviderExecutionRequest) : Except Exn Unit :=
  if ¬ isSynthetic request.providerId ∧ request.providerId ≠ "MPESA-KE" ∧ request.providerId ≠ "BANK-KE"
  then .error ⟨.valueError, "sandbox provider is outside the allowlist"⟩
  else if ¬ isSynthetic request.payerAccountReference then
    .error ⟨.permissionError, "sandbox refuses non-synthetic payer endpoints"⟩
  else if ¬ isSynthetic request.beneficiaryAccountReference then
    .error ⟨.permissionError, "sandbox refuses non-synthetic beneficiary endpoints"⟩
  else .ok ()

variable (rt : Runtime)

/-- `hashlib.sha256(text.encode("utf-8")).hexdigest().upper()[:n]`, for `n` up to 32. -/
def textDigest (text : String) (n : ℕ) : String :=
  truncate (rt.shortDigest (utf8Bytes text.toList)) n

/-- The reference under which the provider knows the instruction. -/
def externalReference (request : ProviderExecutionRequest) : String :=
  "SIMREF-" ++ textDigest rt (request.providerId ++ ":" ++ request.rttId) 24

/-- The reference of the originator. -/
def originatorReference (request : ProviderExecutionRequest) : String :=
  "SIMORG-" ++ textDigest rt request.idempotencyKey 20

/-- `SETTLED` and `TIMEOUT`. -/
inductive EffectType
  | settled | timeout
  deriving DecidableEq, Repr

def EffectType.value : EffectType → String
  | .settled => "SETTLED"
  | .timeout => "TIMEOUT"

/-- The transaction that an effect reports. -/
def transactionId (request : ProviderExecutionRequest) (effectType : EffectType) : String :=
  "SIMTX-" ++ textDigest rt (externalReference rt request ++ ":" ++ effectType.value) 20

/-- `amount_minor // 100`, for the integers that amounts are. -/
def wholeUnits : Json → Except Exn Int
  | .int amount => .ok (amount / 100)
  | .bool _ => .ok 0
  | _ => .error ⟨.typeError, "unsupported operand type(s) for //"⟩

/-- The result of an M-PESA callback. -/
def mpesaResult (request : ProviderExecutionRequest) : EffectType → Except Exn Json
  | .settled => do
    let amount ← wholeUnits request.amountMinor
    return .obj [("ResultType", .int 0), ("ResultCode", .int 0),
      ("ResultDesc", .str "Simulated settlement"),
      ("OriginatorConversationID", .str (originatorReference rt request)),
      ("ConversationID", .str (externalReference rt request)),
      ("TransactionID", .str (transactionId rt request .settled)),
      ("ResultParameters", .obj [("ResultParameter", .arr
        [.obj [("Key", .str "TransactionAmount"), ("Value", .int amount)],
          .obj [("Key", .str "TransactionReceipt"),
            ("Value", .str (transactionId rt request .settled))]])])]
  | .timeout => .ok (.obj [("ResultType", .int 0), ("ResultCode", .int 2001),
      ("ResultDesc", .str "Simulated timeout"),
      ("OriginatorConversationID", .str (originatorReference rt request)),
      ("ConversationID", .str (externalReference rt request)), ("TransactionID", .null),
      ("ResultParameters", .null)])

/-- The object of which the payload of an effect is the text. -/
def payloadObject (request : ProviderExecutionRequest) (effectType : EffectType) : Except Exn Json :=
  if request.providerId = "MPESA-KE" then do
    return .obj [("Result", ← mpesaResult rt request effectType)]
  else .ok (.obj [("provider", .str request.providerId), ("event", .str effectType.value),
    ("external_reference", .str (externalReference rt request)),
    ("transaction_id", .str (transactionId rt request effectType)), ("rtt_id", .str request.rttId),
    ("amount_minor", request.amountMinor), ("currency", request.currencyFrom)])

/-- The identifier of an effect. -/
def effectIdOf (request : ProviderExecutionRequest) (effectType : EffectType) (offset : Int) :
    Except Exn String := do
  let bytes ← canonicalJsonBytes (.obj [("provider", .str request.providerId),
    ("rtt_id", .str request.rttId), ("effect", .str effectType.value), ("offset", .int offset)])
  return "SIMEFF-" ++ truncate (rt.shortDigest bytes) 24

/-- An effect of the request that is due at a tick. -/
def effectAt (request : ProviderExecutionRequest) (effectType : EffectType) (effectId : String)
    (payload : ByteArray) (dueTick : Int) : ScheduledProviderEffect where
  effectId := effectId
  providerId := request.providerId
  rttId := request.rttId
  externalReference := externalReference rt request
  effectType := effectType.value
  providerCode := if effectType = .settled then "0" else "TIMEOUT"
  dueTick := dueTick
  payload := payload

/-- `_schedule`. -/
def schedule (request : ProviderExecutionRequest) (effectType : EffectType) (offset : Int) :
    EffectCode Unit := do
  let payload ← payloadObject rt request effectType
  let effectId ← effectIdOf rt request effectType offset
  let tick ← EffectCode.currentTick
  let _ ← EffectCode.schedule
    (.scheduled (effectAt rt request effectType effectId (jsonDumps payload) (tick + offset)))

/-- The answer to a request that the provider accepts. -/
def accepted (request : ProviderExecutionRequest) : ProviderSubmissionResult :=
  ⟨.accepted, "SIM_ACCEPTED_FOR_PROCESSING", some (externalReference rt request), none,
    [("originator_conversation_id", originatorReference rt request),
      ("amount_minor", rt.str request.amountMinor)]⟩

/-- `_result`. -/
def result (request : ProviderExecutionRequest) : EffectScenario → EffectCode ProviderSubmissionResult
  | .rejectedRetryable => return ⟨.rejected, "SIM_PROVIDER_TEMPORARY", none, some .retryable, []⟩
  | .rejectedTerminal => return ⟨.rejected, "SIM_PROVIDER_TERMINAL", none, some .terminal, []⟩
  | .unknownAfterSend => return ⟨.unknown, "SIM_OUTCOME_UNKNOWN", none, none, []⟩
  | .timeoutThenSuccess => do
    schedule rt request .timeout 1
    schedule rt request .settled 2
    return accepted rt request
  | .success => do
    schedule rt request .settled 1
    return accepted rt request

/-- The broker, once it remembers the answer to a request. -/
def remember (broker : SandboxEffectBroker) (request : ProviderExecutionRequest)
    (result : ProviderSubmissionResult) : SandboxEffectBroker :=
  { broker with
    submissions := broker.submissions.set (request.providerId, request.idempotencyKey)
      (request.requestSha256, result) }

/-- `submit`, with what the broker remembers afterwards. -/
def submit (broker : SandboxEffectBroker) (request : ProviderExecutionRequest) :
    EffectCode (ProviderSubmissionResult × SandboxEffectBroker) := do
  validateSynthetic request
  match broker.submissions.get? (request.providerId, request.idempotencyKey) with
  | some existing =>
    require (existing.1 = request.requestSha256)
      ⟨.runtimeError, "simulator idempotency material changed"⟩
    MetricsRegistry.increment "railone_sandbox_submit_replay_total" [("provider", request.providerId)]
    return (existing.2, broker)
  | none =>
    let scenario := broker.scenarioOf request.rttId
    let result ← result rt request scenario
    MetricsRegistry.increment "railone_sandbox_submissions_total" [("provider", request.providerId),
      ("outcome", result.outcome.value), ("scenario", scenario.value)]
    return (result, broker.remember request result)

/-- The worker under whose name `advance` delivers. -/
def inspector : String := "inline-sandbox-inspector"

/-- The loop of `advance` over the claimed records. -/
def deliverAll : List ProviderEffectRecord → EffectCode (List ScheduledProviderEffect)
  | [] => return []
  | record :: records => do
    let _ ← EffectCode.markDelivered record.effect.effectId inspector
    MetricsRegistry.increment "railone_sandbox_effects_total"
      [("provider", record.effect.providerId), ("effect_type", record.effect.effectType)]
    let rest ← deliverAll records
    return record.effect :: rest

/-- `advance`. -/
def advance (ticks : Int) : EffectCode (List ScheduledProviderEffect) := do
  let records ← EffectCode.advanceAndClaim inspector ticks 1 1000
  deliverAll records

/-- `claim_due`. -/
def claimDue (workerId : String) (ticks leaseTicks limit : Int) :
    EffectCode (List ProviderEffectRecord) :=
  EffectCode.advanceAndClaim workerId ticks leaseTicks limit

/-- `mark_delivered`. -/
def markDelivered (effectId workerId : String) : EffectCode Unit := do
  let _ ← EffectCode.markDelivered effectId workerId

/-- `reschedule`. -/
def reschedule (effectId workerId : String) (delayTicks : Int) (error : String) (maxAttempts : Int) :
    EffectCode Unit := do
  let _ ← EffectCode.reschedule effectId workerId delayTicks error maxAttempts
  MetricsRegistry.increment "railone_sandbox_effect_requeues_total" []

end SandboxEffectBroker

end RailOne
