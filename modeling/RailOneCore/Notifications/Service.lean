import RailOneCore.Platform.World

/-!
# Settlement evidence and its notifications

The code of `SettlementNotificationService.confirm_provider_settlement` and of
`SmsOutboxRelay.deliver`.  A settlement binds the UTT, the successful RTT and the references of the
provider into one signed evidence, and announces it to the sender and to the receiver.

The identifiers of the evidence and of its notifications leave out the time of the call, so that a
replay finds what the first call stored.  The rendered texts do contain the time, at a fixed width.
-/

namespace RailOne

open Concurrent

variable (d : Deployment)

/-! ## Rendering -/

/-- At least two decimal digits. -/
def twoDigits (n : ℕ) : String := if n < 10 then "0" ++ n.repr else n.repr

/-- Commas between groups of three digits, from the last digit on. -/
def commas : List Char → List Char
  | a :: b :: c :: e :: t => a :: b :: c :: ',' :: commas (e :: t)
  | digits => digits

/-- The format `,` of an integer. -/
def groupThousands (n : Int) : String :=
  (if n < 0 then "-" else "") ++ String.ofList (commas n.natAbs.repr.toList.reverse).reverse

/-- The day of the year, from the first of March on, of a day counted from the epoch. -/
def dayOfMarchYear (days : Int) : ℕ :=
  let dayOfEra := ((days + 719468) % 146097).toNat
  let yearOfEra := (dayOfEra - dayOfEra / 1460 + dayOfEra / 36524 - dayOfEra / 146096) / 365
  dayOfEra - (365 * yearOfEra + yearOfEra / 4 - yearOfEra / 100)

/-- The months, from March on. -/
def monthNames : List String :=
  ["Mar", "Apr", "May", "Jun", "Jul", "Aug", "Sep", "Oct", "Nov", "Dec", "Jan", "Feb"]

/-- The format `%d %b %H:%M`. -/
def renderTime (local_ : Instant) : String :=
  let day := dayOfMarchYear (local_ / seconds 86400)
  let month := (5 * day + 2) / 153
  let minutes := (local_ % seconds 86400 / seconds 60).toNat
  twoDigits (day - (153 * month + 2) / 5 + 1) ++ " " ++ monthNames.getD month "Feb" ++ " " ++
    twoDigits (minutes / 60) ++ ":" ++ twoDigits (minutes % 60)

namespace SettlementNotificationService

/-- `_money`. -/
def money (amountMinor : Int) (currency : String) : String :=
  d.rt.upper currency ++ " " ++ groupThousands (amountMinor / 100) ++ "." ++
    twoDigits (amountMinor % 100).toNat

/-- `_short_utt`. -/
def shortUtt (uttId : String) : String := if 10 < uttId.length then truncate uttId 10 else uttId

/-- The time of a settlement as the messages show it. -/
def renderedTime (instant : Instant) : String :=
  renderTime (instant + d.utcOffsetMinutes * seconds 60) ++ " " ++ d.timezoneLabel

/-- The message to the sender. -/
def senderBody (uttId : String) (utt : Fields) (instant : Instant) : Except Exn String := do
  let amount := money d (← utt.intItem "amount_minor") (← utt.strItem "currency_from")
  let beneficiary ← utt.objItem "beneficiary"
  let name ← beneficiary.strItem "display_name"
  let institution ← (← beneficiary.objItem "endpoint").strItem "institution_display_name"
  let fee := money d (← utt.intItem "total_fee_minor") (← utt.strItem "currency_from")
  return "RailOne: SETTLED. " ++ amount ++ " sent to " ++ name ++ " via " ++ institution ++ " on " ++
    renderedTime d instant ++ ". Ref " ++ shortUtt uttId ++ ". Fee " ++ fee ++ "."

/-- The message to the receiver. -/
def receiverBody (uttId : String) (utt : Fields) (instant : Instant) : Except Exn String := do
  let amount := money d (← utt.intItem "receive_amount_minor") (← utt.strItem "currency_to")
  let name ← (← utt.objItem "payer").strItem "display_name"
  let endpoint ← (← utt.objItem "beneficiary").objItem "endpoint"
  let institution ← endpoint.strItem "institution_display_name"
  let hint ← endpoint.strItem "display_hint"
  return "RailOne: SETTLED. You received " ++ amount ++ " from " ++ name ++ " into " ++ institution ++
    " " ++ hint ++ " on " ++ renderedTime d instant ++ ". Ref " ++ shortUtt uttId ++ "."

/-! ## Evidence and notifications -/

/-- `TEMPLATE_VERSION`. -/
def templateVersion : String := "settled-sms-v1"

/-- What identifies the evidence of a settlement. -/
def evidenceIdentity (uttId : String) (uttHash : Json)
    (providerId transactionId callbackId : String) : Fields :=
  [("utt_id", .str uttId), ("utt_payload_sha256", uttHash), ("provider_id", .str providerId),
    ("provider_transaction_id", .str transactionId), ("callback_event_id", .str callbackId)]

/-- The identifier and the signed content of the evidence of a settlement. -/
def evidencePayload (uttId providerId transactionId callbackId : String)
    (signedUtt : SignatureEnvelope) (rttId : String) (instant : Instant) :
    Except Exn (String × Fields) := do
  let uttHash ← signedUtt.header.item "payload_sha256"
  let identity := evidenceIdentity uttId uttHash providerId transactionId callbackId
  let evidenceId ← d.rt.contentId "SET" (.obj identity)
  let amountMinor ← signedUtt.payload.item "amount_minor"
  let currencyFrom ← signedUtt.payload.item "currency_from"
  let receiveAmountMinor ← signedUtt.payload.item "receive_amount_minor"
  let currencyTo ← signedUtt.payload.item "currency_to"
  return (evidenceId, ("evidence_id", .str evidenceId) :: identity ++
    [("rtt_id", .str rttId), ("amount_minor", amountMinor), ("currency_from", currencyFrom),
      ("receive_amount_minor", receiveAmountMinor), ("currency_to", currencyTo),
      ("settled_at", .int (epochSeconds instant)),
      ("evidence_kind", .str "PROVIDER_CALLBACK_CORRELATED")])

/-- The identifier of a notification. -/
def notificationIdOf (evidenceId : String) (role : NotificationRecipientRole) : Except Exn String :=
  d.rt.contentId "SMS" (.obj [("evidence_id", .str evidenceId),
    ("recipient_role", .str role.value), ("channel", .str "SMS"),
    ("template_version", .str templateVersion)])

/-- `_notification`. -/
def notification (evidenceId uttId : String) (role : NotificationRecipientRole)
    (contactBindingId body : String) (instant : Instant) : Except Exn SmsNotificationRecord := do
  require (body.length ≤ 320) ⟨.valueError, "rendered settlement SMS exceeds two segments"⟩
  let notificationId ← notificationIdOf d evidenceId role
  return {
    notificationId, evidenceId, uttId, recipientRole := role, contactBindingId, templateVersion
    renderedBody := body, bodySha256 := d.rt.sha256 body.toUTF8, state := .prepared
    gatewayReference := none, normalizedCode := none, version := 1, createdAt := instant
    updatedAt := instant }

/-- `payload[side]["endpoint"]["contact_binding_id"]`. -/
def contactOf (utt : Fields) (side : String) : Except Exn String := do
  (← (← utt.objItem side).objItem "endpoint").strItem "contact_binding_id"

/-- `_notifications`. -/
def notifications (evidenceId uttId : String) (utt : Fields) (instant : Instant) :
    Except Exn Notifications := do
  let senderBody ← senderBody d uttId utt instant
  let receiverBody ← receiverBody d uttId utt instant
  let sender ← notification d evidenceId uttId .sender (← contactOf utt "payer") senderBody instant
  let receiver ←
    notification d evidenceId uttId .receiver (← contactOf utt "beneficiary") receiverBody instant
  return (sender, receiver)

/-- A settlement, as it is stored, and whether it had been stored before. -/
structure Result where
  evidence : SettlementEvidenceRecord
  notifications : Notifications
  replayed : Bool
  deriving DecidableEq, Repr

/-- The finalized plan of a UTT, with its last attempt. -/
def requireFinalized (uttId : String) : Code RttAttemptRecord := do
  let plan ← Code.requirePlanForUtt uttId
  match plan.status, plan.previousRttId with
  | .finalized, some rttId =>
    let attempt ← Code.requireAttempt rttId
    require (attempt.state = .succeeded)
      ⟨.permissionError, "settlement notification requires a successful RTT"⟩
    return attempt
  | _, _ =>
    .raise ⟨.permissionError, "settlement notification requires a finalized plan"⟩

/-- The references of the provider, trimmed. -/
def requireReferences (providerTransactionId callbackEventId : String) :
    Except Exn (String × String) :=
  if strip providerTransactionId = "" ∨ strip callbackEventId = "" then
    .error ⟨.valueError, "provider settlement references are required"⟩
  else .ok (strip providerTransactionId, strip callbackEventId)

/-- The evidence and the notifications of a settlement are signed and stored. -/
def settle (uttId providerId transactionId callbackId : String) (signedUtt : SignatureEnvelope)
    (rttId : String) (instant : Instant) : Code Result := do
  let draft ← evidencePayload d uttId providerId transactionId callbackId signedUtt rttId instant
  let signed ← Code.sign .settlementEvidence draft.2 d.settlementSigningKeyId instant
  let items ← notifications d draft.1 uttId signedUtt.payload instant
  let stored ← Code.commitSettlement
    { evidenceId := draft.1, uttId, providerId, providerTransactionId := transactionId
      callbackEventId := callbackId, signedEvidence := signed, settledAt := instant } items
  return ⟨stored.1, stored.2.1, stored.2.2⟩

/-- `confirm_provider_settlement`. -/
def confirmProviderSettlement (uttId providerId providerTransactionId callbackEventId : String)
    (instant : Instant) : Code Result := do
  let signedUtt ← Code.requireUtt uttId
  let check : VerificationResult ← call (.verify signedUtt .utt)
  require check.valid ⟨.permissionError, "settlement cannot bind an invalid UTT"⟩
  let attempt ← requireFinalized uttId
  let references ← requireReferences providerTransactionId callbackEventId
  settle d uttId providerId references.1 references.2 signedUtt attempt.rttId instant

end SettlementNotificationService

/-! ## The relay -/

namespace SmsOutboxRelay

/-- `_finish`. -/
def finish (record : SmsNotificationRecord) (state : SmsDeliveryState) (code : String)
    (reference : Option String) (instant : Instant) : Code SmsNotificationRecord := do
  let updated :=
    { record with
      state, normalizedCode := some (d.rt.upper code), gatewayReference := reference
      version := record.version + 1, updatedAt := instant }
  Code.transitionNotification record.version updated
  return updated

/-- The `try` block of `deliver`. -/
def send (record : SmsNotificationRecord) : Code SmsGatewayResult := do
  let destination : String ← call (.resolveSmsDestination record.contactBindingId)
  call (.sendSms record.notificationId destination record.renderedBody)

/-- `deliver`. -/
def deliver (notificationId : String) (instant : Instant) : Code SmsNotificationRecord := do
  let record ← Code.requireNotification notificationId
  match record.state with
  | .sent | .rejected | .unknown => return record
  | .dispatching =>
    finish d record .unknown "NON_IDEMPOTENT_SMS_RECOVERY_BLOCKED" none instant
  | .prepared =>
    let dispatching :=
      { record with state := .dispatching, version := record.version + 1, updatedAt := instant }
    Code.transitionNotification record.version dispatching
    match ← (send record).outcome with
    | .error _ => finish d dispatching .unknown "SMS_GATEWAY_OUTCOME_UNKNOWN" none instant
    | .ok result =>
      finish d dispatching (if result.accepted then .sent else .rejected) result.code
        result.gatewayReference instant

end SmsOutboxRelay

end RailOne
