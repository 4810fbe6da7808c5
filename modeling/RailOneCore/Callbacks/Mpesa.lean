import RailOneCore.Execution.Service
import RailOneCore.Notifications.Service

/-!
# M-PESA callbacks

The code of `MpesaCallbackProcessor`.  A callback is authenticated over its raw bytes, normalised to
the few fields that count, correlated with the submission that its conversation belongs to, recorded
in the inbox and then applied: a timeout parks the attempt, a result decides it.

The evidence of a success must name the amount that was dispatched and agree with the transaction.
-/

namespace RailOne

open Concurrent Ordered

variable (d : Deployment)

/-! ## Authentication -/

namespace MpesaIngressAuthenticator

/-- `text.removeprefix(head)`. -/
def removePrefix (text head : String) : String :=
  if head.toList <+: text.toList then String.ofList (text.toList.drop head.length) else text

/-- The signature that a request supplies, as it is compared. -/
def supplied (signature : String) : String :=
  d.rt.lower (strip (removePrefix signature "sha256="))

/-- `verify`.  `hmac.compare_digest` refuses text that is not ASCII. -/
def verify (rawBody : ByteArray) (signature : String) : Except Exn Bool :=
  if (supplied d signature).length ≠ 64 then .ok false
  else do
    let secret ← d.ingressSecret
    require ((supplied d signature).toList.all fun c => c.toNat < 128)
      ⟨.typeError, "comparing strings with non-ASCII characters is not supported"⟩
    return d.rt.hmacSha256 secret rawBody = supplied d signature

end MpesaIngressAuthenticator

/-! ## Normalisation -/

inductive CallbackType
  | result | timeout
  deriving DecidableEq, Repr

def CallbackType.value : CallbackType → String
  | .result => "RESULT"
  | .timeout => "TIMEOUT"

/-- A normalised callback. -/
structure NormalizedCallback where
  conversationId : String
  originatorConversationId : String
  transactionId : Option String
  resultCode : Int
  resultDescription : String
  parameters : Dict String Json

/-- The normalised callback as an object. -/
def NormalizedCallback.toFields (n : NormalizedCallback) : Fields :=
  [("conversation_id", .str n.conversationId),
    ("originator_conversation_id", .str n.originatorConversationId),
    ("transaction_id", .ofOption n.transactionId), ("result_code", .int n.resultCode),
    ("result_description", .str n.resultDescription), ("parameters", .obj n.parameters.entries)]

namespace MpesaCallbackProcessor

/-- `_text`. -/
def text (value : Fields) (key : String) (maximum : ℕ) : Except Exn String :=
  match value.get key with
  | some (.str item) =>
    if item = "" ∨ maximum < item.length then
      .error ⟨.valueError, "M-PESA " ++ key ++ " is invalid"⟩
    else .ok item
  | _ => .error ⟨.valueError, "M-PESA " ++ key ++ " is invalid"⟩

/-- `key in allowed`; arrays and objects cannot be looked up in a set. -/
def isAllowed : Option Json → Except Exn (Option String)
  | some (.str key) =>
    .ok (if key = "TransactionAmount" ∨ key = "TransactionReceipt" then some key else none)
  | some (.arr _) => .error ⟨.typeError, "unhashable type: 'list'"⟩
  | some (.obj _) => .error ⟨.typeError, "unhashable type: 'dict'"⟩
  | _ => .ok none

/-- The value of an allowed parameter: a text or an integer. -/
def parameterValue : Option Json → Except Exn Json
  | some (.str value) => .ok (.str value)
  | some (.int value) => .ok (.int value)
  | _ => .error ⟨.valueError, "M-PESA result parameter value is invalid"⟩

/-- One item of the result parameters: of allowed parameters with the same key, the last one
counts. -/
def allowedParameter (result : Dict String Json) (item : Json) : Except Exn (Dict String Json) :=
  match item with
  | .obj fields => do
    match ← isAllowed (Fields.get fields "Key") with
    | some key => return result.set key (← parameterValue (Fields.get fields "Value"))
    | none => return result
  | _ => .error ⟨.valueError, "M-PESA result parameter must be an object"⟩

/-- `_allowed_parameters`. -/
def allowedParameters : Option Json → Except Exn (Dict String Json)
  | none | some .null => .ok .empty
  | some (.obj value) =>
    match Fields.get value "ResultParameter" with
    | some (.arr items) => items.foldlM allowedParameter .empty
    | _ => .error ⟨.valueError, "M-PESA ResultParameter must be an array"⟩
  | _ => .error ⟨.valueError, "M-PESA ResultParameters must be an object"⟩

/-- `result.get("TransactionID")`, checked. -/
def transactionId (result : Fields) : Except Exn (Option String) :=
  match result.get "TransactionID" with
  | none | some .null => .ok none
  | some (.str value) =>
    if 128 < value.length then .error ⟨.valueError, "M-PESA TransactionID is invalid"⟩
    else .ok (some value)
  | _ => .error ⟨.valueError, "M-PESA TransactionID is invalid"⟩

/-- `result.get("ResultCode")`, checked. -/
def resultCode (result : Fields) : Except Exn Int :=
  match result.get "ResultCode" with
  | some (.int code) => .ok code
  | _ => .error ⟨.valueError, "M-PESA ResultCode must be an integer"⟩

/-- `result.get("ResultDesc", "")`, checked. -/
def resultDescription (result : Fields) : Except Exn String :=
  match result.get "ResultDesc" with
  | none => .ok ""
  | some (.str description) => .ok description
  | _ => .error ⟨.valueError, "M-PESA ResultDesc must be text"⟩

/-- The value under `Result` of a body. -/
def envelope (rawBody : ByteArray) : Except Exn Json :=
  match d.rt.jsonLoads rawBody with
  | .ok (.obj payload) =>
    match Fields.get payload "Result" with
    | some result => .ok result
    | none => .error ⟨.valueError, "invalid M-PESA callback envelope"⟩
  | .ok _ => .error ⟨.valueError, "invalid M-PESA callback envelope"⟩
  | .error exn =>
    if exn.isValueError then .error ⟨.valueError, "invalid M-PESA callback envelope"⟩
    else .error exn

/-- The fields of a callback that count. -/
def normalizeResult (result : Fields) : Except Exn NormalizedCallback := do
  let conversationId ← text result "ConversationID" 128
  let originatorConversationId ← text result "OriginatorConversationID" 128
  let transactionId ← transactionId result
  let resultCode ← resultCode result
  let description ← resultDescription result
  let parameters ← allowedParameters (result.get "ResultParameters")
  return ⟨conversationId, originatorConversationId, transactionId, resultCode,
    truncate description 256, parameters⟩

/-- `_normalize`. -/
def normalize (rawBody : ByteArray) : Except Exn NormalizedCallback := do
  match ← envelope d rawBody with
  | .obj result => normalizeResult result
  | _ => .error ⟨.valueError, "M-PESA Result must be an object"⟩

/-! ## Evidence -/

/-- `dict(context).get(key)`. -/
def contextGet (context : ProviderContext) (key : String) : Option String :=
  (context.foldl (fun dict p => dict.set p.1 p.2) (Dict.empty : Dict String String)).get? key

/-- `int(amount)` of a parameter that is an integer, or a text of digits. -/
def amountValue : Option Json → Except Exn Int
  | some (.int amount) => .ok amount
  | some (.str amount) =>
    if d.rt.isdigit amount then d.rt.parseInt amount
    else .error ⟨.valueError, "M-PESA success omitted an integer TransactionAmount"⟩
  | _ => .error ⟨.valueError, "M-PESA success omitted an integer TransactionAmount"⟩

/-- The amount that was dispatched. -/
def expectedAmount (context : ProviderContext) : Except Exn String :=
  match contextGet context "amount_minor" with
  | some amount =>
    if d.rt.isdigit amount then .ok amount
    else .error ⟨.runtimeError, "M-PESA submission is missing its expected amount"⟩
  | none => .error ⟨.runtimeError, "M-PESA submission is missing its expected amount"⟩

/-- `_verify_success_evidence`.  It answers the identifier of the transaction. -/
def verifySuccessEvidence (n : NormalizedCallback) (context : ProviderContext) :
    Except Exn String := do
  let transactionId ← match n.transactionId with
    | some id =>
      if id = "" then .error ⟨.valueError, "successful M-PESA callback omitted TransactionID"⟩
      else .ok id
    | none => .error ⟨.valueError, "successful M-PESA callback omitted TransactionID"⟩
  let expected ← expectedAmount d context
  let amount ← amountValue d (n.parameters.get? "TransactionAmount")
  let expected ← d.rt.parseInt expected
  require (amount * 100 = expected)
    ⟨.permissionError, "M-PESA callback amount does not match the dispatched request"⟩
  require (∀ receipt ∈ n.parameters.get? "TransactionReceipt", receipt = .str transactionId)
    ⟨.permissionError, "M-PESA callback receipt does not match TransactionID"⟩
  return transactionId

/-! ## Processing -/

/-- The provider whose callbacks are processed. -/
def providerId : String := "MPESA-KE"

/-- The identifier of an inbox record. -/
def eventIdOf (callbackType : CallbackType) (conversationId : String) : String :=
  "MPESA-" ++ callbackType.value ++ "-" ++ conversationId

/-- What a processed callback reports. -/
structure CallbackApplicationResult where
  providerEventId : String
  rttId : String
  disposition : String
  duplicate : Bool
  deriving DecidableEq, Repr

/-- A timeout parks the attempt. -/
def applyTimeout (attempt : RttAttemptRecord) (instant : Instant) : Code String :=
  match attempt.state with
  | .created => do
    let _ ← RttAttemptService.recordFailure d attempt.rttId "MPESA_CALLBACK_TIMEOUT"
      .reconciliationRequired 0 (.aware instant)
    return "RECONCILIATION_REQUIRED"
  | .reconciliationRequired => return "RECONCILIATION_REQUIRED"
  | _ => .raise ⟨.runtimeError, "timeout callback conflicts with finalized RTT"⟩

/-- A success decides the attempt. -/
def recordSuccess (attempt : RttAttemptRecord) (instant : Instant) : Code Unit :=
  match attempt.state with
  | .created => do
    let _ ← RttAttemptService.recordSuccess attempt.rttId 0 (.aware instant)
  | .reconciliationRequired => do
    let _ ← RttAttemptService.resolveReconciliation d attempt.rttId true 0 none .terminal
      (.aware instant)
  | .succeeded => return ()
  | .failed => .raise ⟨.runtimeError, "success callback conflicts with finalized RTT"⟩

/-- The settlement of a success is confirmed, where a settlement service is configured. -/
def confirm (uttId transactionId eventId : String) (instant : Instant) : Code Unit :=
  if d.settles then do
    let _ ← SettlementNotificationService.confirmProviderSettlement d uttId providerId transactionId
      eventId instant
  else return ()

/-- A success decides the attempt and is settled. -/
def applySuccess (submission : ProviderSubmissionRecord) (attempt : RttAttemptRecord)
    (transactionId eventId : String) (instant : Instant) : Code String := do
  recordSuccess d attempt instant
  confirm d submission.uttId transactionId eventId instant
  return "CONFIRMED_SUCCESS"

/-- A failure decides the attempt. -/
def applyFailure (attempt : RttAttemptRecord) (resultCode : Int) (instant : Instant) :
    Code String := do
  let retryable := d.retryableResultCodes.contains resultCode
  let disposition : FailureDisposition := if retryable then .retryable else .terminal
  let code := "MPESA_RESULT_" ++ resultCode.repr
  match attempt.state with
  | .created =>
    let _ ← RttAttemptService.recordFailure d attempt.rttId code disposition 0 (.aware instant)
  | .reconciliationRequired =>
    let _ ← RttAttemptService.resolveReconciliation d attempt.rttId false 0 (some code) disposition
      (.aware instant)
  | .failed => pure ()
  | .succeeded => .raise ⟨.runtimeError, "failure callback conflicts with finalized RTT"⟩
  return if retryable then "CONFIRMED_RETRYABLE_FAILURE" else "CONFIRMED_TERMINAL_FAILURE"

/-- What a correlated callback says: nothing yet, a success with its transaction, or a failure. -/
inductive Finding
  | timeout
  | success (transactionId : String)
  | failure (resultCode : Int)
  deriving DecidableEq, Repr

/-- Apply a finding to the attempt of the submission. -/
def applyFinding (submission : ProviderSubmissionRecord) (attempt : RttAttemptRecord)
    (eventId : String) (instant : Instant) : Finding → Code String
  | .timeout => applyTimeout d attempt instant
  | .success transactionId => applySuccess d submission attempt transactionId eventId instant
  | .failure resultCode => applyFailure d attempt resultCode instant

/-- Record a correlated callback and apply its finding, unless that has been done. -/
def record (callbackType : CallbackType) (n : NormalizedCallback)
    (submission : ProviderSubmissionRecord) (found : Finding) (instant : Instant) :
    Code CallbackApplicationResult := do
  let eventId := eventIdOf callbackType n.conversationId
  let payloadHash ← d.rt.payloadSha256 (.obj n.toFields)
  let entry ← Code.ingest providerId eventId payloadHash n.toFields true instant
  if entry.1.state = .applied then
    return ⟨eventId, submission.rttId, "ALREADY_APPLIED", true⟩
  else
    let attempt ← Code.requireAttempt submission.rttId
    let disposition ← applyFinding d submission attempt eventId instant found
    let _ ← Code.markApplied providerId eventId instant
    return ⟨eventId, submission.rttId, disposition, entry.2⟩

end MpesaCallbackProcessor

end RailOne
