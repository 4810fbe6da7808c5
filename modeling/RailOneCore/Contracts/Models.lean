import RailOneCore.Foundation.Runtime

/-!
# Commercial contract inputs

Quote terms, actors, account endpoints and origin contexts, with the checks and normalisations that
their `to_payload` methods apply before anything is signed.
-/

namespace RailOne

/-! ## Enumerations -/

inductive ContextType
  | p2p | merchant | partner
  deriving DecidableEq, Repr

def ContextType.value : ContextType → String
  | .p2p => "P2P"
  | .merchant => "MERCHANT"
  | .partner => "PARTNER"

inductive PaymentPurpose
  | personToPerson | supplierPayment | branchFundTransfer | merchantToMerchant | refund
  | expenseSettlement | bulkDisbursement
  deriving DecidableEq, Repr

def PaymentPurpose.value : PaymentPurpose → String
  | .personToPerson => "PERSON_TO_PERSON"
  | .supplierPayment => "SUPPLIER_PAYMENT"
  | .branchFundTransfer => "BRANCH_FUND_TRANSFER"
  | .merchantToMerchant => "MERCHANT_TO_MERCHANT"
  | .refund => "REFUND"
  | .expenseSettlement => "EXPENSE_SETTLEMENT"
  | .bulkDisbursement => "BULK_DISBURSEMENT"

inductive AccountRole
  | debit | credit
  deriving DecidableEq, Repr

namespace AccountRole

def value : AccountRole → String
  | .debit => "DEBIT"
  | .credit => "CREDIT"

/-- `AccountRole(value)`. -/
def ofValue (s : String) : Option AccountRole := [debit, credit].find? fun r => r.value == s

end AccountRole

inductive AccountType
  | bankAccount | mobileMoney | wallet | cardAccount
  deriving DecidableEq, Repr

namespace AccountType

def value : AccountType → String
  | .bankAccount => "BANK_ACCOUNT"
  | .mobileMoney => "MOBILE_MONEY"
  | .wallet => "WALLET"
  | .cardAccount => "CARD_ACCOUNT"

/-- `AccountType(value)`. -/
def ofValue (s : String) : Option AccountType :=
  [bankAccount, mobileMoney, wallet, cardAccount].find? fun t => t.value == s

end AccountType

/-- `text[:n]`. -/
def truncate (s : String) (n : ℕ) : String := String.ofList (s.toList.take n)

/-! ## Endpoints and actors -/

/-- A snapshot of the account that one side of a payment uses. -/
structure AccountEndpoint where
  institutionId : String
  institutionDisplayName : String
  accountBindingId : String
  role : AccountRole
  accountType : AccountType
  displayHint : String
  contactBindingId : String
  attestationReference : String
  deriving DecidableEq, Repr

namespace AccountEndpoint

/-- `AccountEndpoint.to_payload`. -/
def toPayload (e : AccountEndpoint) : Except Exn Fields := do
  let institutionId ← requireText "institution_id" e.institutionId
  let displayName ← requireText "institution_display_name" e.institutionDisplayName
  let accountBindingId ← requireText "account_binding_id" e.accountBindingId
  let displayHint ← requireText "display_hint" e.displayHint
  let contactBindingId ← requireText "contact_binding_id" e.contactBindingId
  let attestationReference ← requireText "attestation_reference" e.attestationReference
  return [("institution_id", .str institutionId),
    ("institution_display_name", .str (truncate displayName 48)),
    ("account_binding_id", .str accountBindingId),
    ("role", .str e.role.value),
    ("account_type", .str e.accountType.value),
    ("display_hint", .str (truncate displayHint 32)),
    ("contact_binding_id", .str contactBindingId),
    ("attestation_reference", .str attestationReference)]

/-- `AccountEndpoint.from_payload`: a missing or malformed field is one and the same error. -/
def fromPayload (value : Fields) : Except Exn AccountEndpoint :=
  let invalid : Except Exn AccountEndpoint :=
    .error ⟨.valueError, "invalid account endpoint snapshot"⟩
  match value.strItem "institution_id", value.strItem "institution_display_name",
    value.strItem "account_binding_id", value.strItem "role", value.strItem "account_type",
    value.strItem "display_hint", value.strItem "contact_binding_id",
    value.strItem "attestation_reference" with
  | .ok institutionId, .ok displayName, .ok accountBindingId, .ok role, .ok accountType,
    .ok displayHint, .ok contactBindingId, .ok attestationReference =>
    match AccountRole.ofValue role, AccountType.ofValue accountType with
    | some role, some accountType =>
      .ok ⟨institutionId, displayName, accountBindingId, role, accountType, displayHint,
        contactBindingId, attestationReference⟩
    | _, _ => invalid
  | _, _, _, _, _, _, _, _ => invalid

end AccountEndpoint

/-- One side of a payment. -/
structure ActorReference where
  actorType : String
  actorId : String
  endpoint : AccountEndpoint
  displayName : Option String
  deriving DecidableEq, Repr

/-- `ActorReference.to_payload`. -/
def ActorReference.toPayload (rt : Runtime) (a : ActorReference) : Except Exn Fields := do
  -- `self.display_name or ...`: an empty name counts as a missing one
  let display ← match a.displayName with
    | some name =>
      if name ≠ "" then pure name
      else do pure (rt.title (← requireText "actor_type" a.actorType))
    | none => do pure (rt.title (← requireText "actor_type" a.actorType))
  let actorType ← requireText "actor_type" a.actorType
  let actorId ← requireText "actor_id" a.actorId
  let displayName ← requireText "display_name" display
  let endpoint ← a.endpoint.toPayload
  return [("actor_type", .str (rt.upper actorType)), ("actor_id", .str actorId),
    ("display_name", .str (truncate displayName 48)), ("endpoint", .obj endpoint)]

/-! ## Origin context -/

/-- Where an intent comes from. -/
structure OriginContext where
  originSystem : String
  originIntentId : String
  contextType : ContextType
  purpose : PaymentPurpose
  continuityUid : Option String
  merchantId : Option String
  branchId : Option String
  partnerId : Option String
  deriving DecidableEq, Repr

/-- `not value` for an optional text. -/
def isBlank : Option String → Bool
  | none => true
  | some s => s == ""

/-- An optional field: present in the payload when it is given, and then not blank. -/
def optionalField (name : String) : Option String → Except Exn Fields
  | none => .ok []
  | some value => do return [(name, .str (← requireText name value))]

/-- `OriginContext.to_payload`. -/
def OriginContext.toPayload (rt : Runtime) (o : OriginContext) : Except Exn Fields := do
  if o.contextType = .merchant ∧ isBlank o.merchantId then
    throw ⟨.valueError, "merchant_id is required for merchant context"⟩
  if o.contextType = .partner ∧ isBlank o.partnerId then
    throw ⟨.valueError, "partner_id is required for partner context"⟩
  if o.contextType = .p2p ∧ o.purpose ≠ .personToPerson then
    throw ⟨.valueError, "P2P context requires PERSON_TO_PERSON purpose"⟩
  if o.contextType = .p2p ∧ isBlank o.continuityUid then
    throw ⟨.valueError, "continuity_uid is required for P2P context"⟩
  let originSystem ← requireText "origin_system" o.originSystem
  let originIntentId ← requireText "origin_intent_id" o.originIntentId
  let continuityUid ← optionalField "continuity_uid" o.continuityUid
  let merchantId ← optionalField "merchant_id" o.merchantId
  let branchId ← optionalField "branch_id" o.branchId
  let partnerId ← optionalField "partner_id" o.partnerId
  return [("origin_system", .str (rt.upper originSystem)),
    ("origin_intent_id", .str originIntentId), ("context_type", .str o.contextType.value),
    ("purpose", .str o.purpose.value)] ++ continuityUid ++ merchantId ++ branchId ++ partnerId

/-! ## Quote terms -/

/-- The terms that a quote offers. -/
structure QuoteTerms where
  requestId : String
  payer : ActorReference
  beneficiary : ActorReference
  purpose : PaymentPurpose
  amountMinor : Int
  currencyFrom : String
  receiveAmountMinor : Int
  currencyTo : String
  totalFeeMinor : Int
  routingBudgetMinor : Int
  fxRate : String
  corridorId : String
  serviceLevel : String
  routingPolicyId : String
  pricingVersion : String
  maxAttempts : Int
  deriving DecidableEq, Repr

/-- `QuoteTerms.to_payload`. -/
def QuoteTerms.toPayload (rt : Runtime) (q : QuoteTerms) : Except Exn Fields := do
  let amountMinor ← requireMinorUnits "amount_minor" q.amountMinor false
  let receiveAmountMinor ← requireMinorUnits "receive_amount_minor" q.receiveAmountMinor false
  let totalFeeMinor ← requireMinorUnits "total_fee_minor" q.totalFeeMinor true
  let routingBudgetMinor ← requireMinorUnits "routing_budget_minor" q.routingBudgetMinor true
  if ¬ (1 ≤ q.maxAttempts ∧ q.maxAttempts ≤ 10) then
    throw ⟨.valueError, "max_attempts must be between 1 and 10"⟩
  if totalFeeMinor < routingBudgetMinor then
    throw ⟨.valueError, "routing budget cannot exceed the customer fee"⟩
  let fxRate ← requireText "fx_rate" q.fxRate
  match rt.decimalNonPositive fxRate with
    | none => throw ⟨.valueError, "fx_rate must be a decimal string"⟩
    | some true => throw ⟨.valueError, "fx_rate must be positive"⟩
    | some false => pure ()
  if q.payer.endpoint.role ≠ .debit then
    throw ⟨.valueError, "payer endpoint must be a DEBIT binding"⟩
  if q.beneficiary.endpoint.role ≠ .credit then
    throw ⟨.valueError, "beneficiary endpoint must be a CREDIT binding"⟩
  let requestId ← requireText "request_id" q.requestId
  let payer ← q.payer.toPayload rt
  let beneficiary ← q.beneficiary.toPayload rt
  let currencyFrom ← requireText "currency_from" q.currencyFrom
  let currencyTo ← requireText "currency_to" q.currencyTo
  let corridorId ← requireText "corridor_id" q.corridorId
  let serviceLevel ← requireText "service_level" q.serviceLevel
  let routingPolicyId ← requireText "routing_policy_id" q.routingPolicyId
  let pricingVersion ← requireText "pricing_version" q.pricingVersion
  return [("request_id", .str requestId), ("payer", .obj payer),
    ("beneficiary", .obj beneficiary), ("purpose", .str q.purpose.value),
    ("amount_minor", .int amountMinor), ("currency_from", .str (rt.upper currencyFrom)),
    ("receive_amount_minor", .int receiveAmountMinor),
    ("currency_to", .str (rt.upper currencyTo)), ("total_fee_minor", .int totalFeeMinor),
    ("routing_budget_minor", .int routingBudgetMinor), ("fx_rate", .str fxRate),
    ("corridor_id", .str corridorId), ("service_level", .str serviceLevel),
    ("routing_policy_id", .str routingPolicyId), ("pricing_version", .str pricingVersion),
    ("pricing_model", .str "PER_INTENT"), ("max_attempts", .int q.maxAttempts),
    ("custody_model", .str "NON_CUSTODIAL"), ("endpoint_model_version", .int 1)]

end RailOne
