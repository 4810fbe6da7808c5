import RailOneCore.Crypto.SignatureService

/-!
# Settlement evidence and notifications

One settlement evidence for each UTT, committed together with the notifications of the sender and of
the receiver.
-/

namespace RailOne

open Ordered

inductive NotificationRecipientRole
  | sender | receiver
  deriving DecidableEq, Repr

def NotificationRecipientRole.value : NotificationRecipientRole → String
  | .sender => "SENDER"
  | .receiver => "RECEIVER"

inductive SmsDeliveryState
  | prepared | dispatching | sent | rejected | unknown
  deriving DecidableEq, Repr

/-- The evidence that a provider settled a UTT. -/
structure SettlementEvidenceRecord where
  evidenceId : String
  uttId : String
  providerId : String
  providerTransactionId : String
  callbackEventId : String
  signedEvidence : SignatureEnvelope
  settledAt : Instant
  deriving DecidableEq, Repr

/-- A rendered message and its delivery. -/
structure SmsNotificationRecord where
  notificationId : String
  evidenceId : String
  uttId : String
  recipientRole : NotificationRecipientRole
  contactBindingId : String
  templateVersion : String
  renderedBody : String
  bodySha256 : String
  state : SmsDeliveryState
  gatewayReference : Option String
  normalizedCode : Option String
  version : ℕ
  createdAt : Instant
  updatedAt : Instant
  deriving DecidableEq, Repr

/-- The two notifications of a settlement. -/
abbrev Notifications := SmsNotificationRecord × SmsNotificationRecord

/-- `InMemorySettlementNotificationStore`. -/
structure SettlementStore where
  evidenceByUtt : Dict String SettlementEvidenceRecord
  notifications : Dict String SmsNotificationRecord

namespace SettlementStore

/-- The store without evidence. -/
def empty : SettlementStore := ⟨.empty, .empty⟩

/-- `self._notifications[notification_id]`. -/
def notification (st : SettlementStore) (id : String) : Except Exn SmsNotificationRecord :=
  match st.notifications.get? id with
  | some row => .ok row
  | none => .error ⟨.keyError, id⟩

/-- `commit_settlement`.  The Boolean says whether the evidence was known. -/
def commitSettlement (st : SettlementStore) (evidence : SettlementEvidenceRecord)
    (items : Notifications) :
    Except Exn ((SettlementEvidenceRecord × Notifications × Bool) × SettlementStore) :=
  match st.evidenceByUtt.get? evidence.uttId with
  | some existing =>
    if existing.evidenceId ≠ evidence.evidenceId then
      .error ⟨.settlementConflict, "UTT received conflicting settlement evidence"⟩
    else do
      let sender ← st.notification items.1.notificationId
      let receiver ← st.notification items.2.notificationId
      return ((existing, (sender, receiver), true), st)
  | none =>
    if items.1.recipientRole = items.2.recipientRole then
      .error ⟨.valueError, "settlement requires sender and receiver notifications"⟩
    else if (st.notifications.get? items.1.notificationId).isSome ∨
        (st.notifications.get? items.2.notificationId).isSome then
      .error ⟨.settlementConflict, "notification identifier collision"⟩
    else .ok ((evidence, items, false),
      { evidenceByUtt := st.evidenceByUtt.set evidence.uttId evidence
        notifications := (st.notifications.set items.1.notificationId items.1).set
          items.2.notificationId items.2 })

/-- `require_notification`. -/
def requireNotification (st : SettlementStore) (id : String) : Except Exn SmsNotificationRecord :=
  match st.notifications.get? id with
  | some row => .ok row
  | none => .error ⟨.lookupError, "SMS notification not found"⟩

/-- `transition_notification`. -/
def transitionNotification (st : SettlementStore) (previousVersion : ℕ)
    (notification : SmsNotificationRecord) : Except Exn (Unit × SettlementStore) :=
  match st.notifications.get? notification.notificationId with
  | none => .error ⟨.lookupError, "SMS notification not found"⟩
  | some current =>
    if current.version ≠ previousVersion then
      .error ⟨.runtimeError, "SMS notification changed concurrently"⟩
    else if notification.version ≠ previousVersion + 1 then
      .error ⟨.valueError, "SMS notification version must advance exactly once"⟩
    else .ok ((), { st with
      notifications := st.notifications.set notification.notificationId notification })

end SettlementStore

/-- What an SMS gateway answers. -/
structure SmsGatewayResult where
  accepted : Bool
  code : String
  gatewayReference : Option String
  deriving DecidableEq, Repr

end RailOne
