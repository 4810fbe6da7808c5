import RailOneCore.Platform.World

/-!
# Quotes and their acceptance

The code of `QuoteService.issue_quote`, of `ExecutionAuthorityService.issue_sender_authority` and of
`QuoteAcceptanceService.accept`.  An accepted quote becomes a UTT: the commercial terms are copied
out of the signed quote, and the identifiers of the UTT and of the sender authority are digests of
what they stand for.
-/

namespace RailOne

open Concurrent

variable (d : Deployment)

/-! ## Quotes -/

namespace QuoteService

/-- The partner validates the endpoints of a quote. -/
def validateEndpoints (terms : QuoteTerms) : Code Unit :=
  match d.quoteEndpoints with
  | .unverified allowed =>
    .ret (require allowed ⟨.runtimeError, "partner endpoint validator is required"⟩)
  | .validated => do
    Code.validateEndpoint (.str terms.payer.actorId) terms.payer.endpoint .debit
      (.str terms.currencyFrom)
    Code.validateEndpoint (.str terms.beneficiary.actorId) terms.beneficiary.endpoint .credit
      (.str terms.currencyTo)

/-- `issue_quote`. -/
def issueQuote (terms : QuoteTerms) (signingKeyId : String) (issuedAt expiresAt : Datetime) :
    Code SignatureEnvelope := do
  let issued ← requireAware "quote timestamps" issuedAt
  let expiry ← requireAware "quote timestamps" expiresAt
  require (issued < expiry) ⟨.valueError, "quote expiry must be after issuance"⟩
  require (expiry - issued ≤ seconds 300) ⟨.valueError, "quote TTL exceeds pilot maximum"⟩
  let termsPayload ← terms.toPayload d.rt
  validateEndpoints d terms
  let core : Fields := termsPayload ++
    [("issued_at", .int (epochSeconds issued)), ("expires_at", .int (epochSeconds expiry))]
  let quoteId ← d.rt.contentId "Q" (.obj core)
  Code.sign .quote (("quote_id", .str quoteId) :: core) signingKeyId issued

end QuoteService

/-! ## Sender authority -/

namespace ExecutionAuthorityService

/-- `amount_minor` of an authority: a positive integer. -/
def requireAmount : Json → Except Exn Int
  | .int n => if n ≤ 0 then .error ⟨.valueError, "amount_minor must be positive"⟩ else .ok n
  | _ => .error ⟨.typeError, "amount_minor must be an integer"⟩

/-- The payload of a sender authority. -/
def senderAuthorityPayload (uttId : String) (quoteId senderActorType senderReference amountMinor
    currency : Json) (originContext : Fields) (authorizationMethod authorizationReference : String)
    (issued expiry : Instant) : Except Exn Fields := do
  require (0 < expiry - issued) ⟨.valueError, "authority expiry must be after issuance"⟩
  require (expiry - issued ≤ seconds 900) ⟨.valueError, "authority window exceeds maximum TTL"⟩
  let amount ← requireAmount amountMinor
  let uttId ← requireText "utt_id" uttId
  let quoteId ← requireTextValue "quote_id" quoteId
  let senderActorType ← requireTextValue "sender_actor_type" senderActorType
  let senderReference ← requireTextValue "sender_reference" senderReference
  let currency ← requireTextValue "currency" currency
  let authorizationMethod ← requireText "authorization_method" authorizationMethod
  let authorizationReference ← requireText "authorization_reference" authorizationReference
  let core : Fields := [("utt_id", .str uttId), ("quote_id", .str quoteId),
    ("sender_actor_type", .str senderActorType), ("sender_reference", .str senderReference),
    ("amount_minor", .int amount), ("currency", .str (d.rt.upper currency)),
    ("origin_context", .obj originContext), ("authorization_method", .str authorizationMethod),
    ("authorization_reference", .str authorizationReference),
    ("authorized_at", .int (epochSeconds issued)), ("expires_at", .int (epochSeconds expiry)),
    ("authority_scope", .str "EXECUTE_UTT"), ("custody_model", .str "NON_CUSTODIAL"),
    ("status", .str "ACTIVE")]
  let etkSId ← d.rt.contentId "ETKS" (.obj core)
  return ("etk_s_id", .str etkSId) :: core

end ExecutionAuthorityService

/-! ## Acceptance -/

/-- A request to accept a quote. -/
structure QuoteAcceptanceCommand where
  signedQuote : SignatureEnvelope
  origin : OriginContext
  authorizationMethod : String
  authorizationReference : String
  idempotencyKey : String
  authorityTtlSeconds : Int

/-- An accepted contract, and whether it had been accepted before. -/
structure QuoteAcceptanceResult where
  contract : AcceptedContract
  replayed : Bool
  deriving DecidableEq, Repr

namespace QuoteAcceptanceService

/-- The material that identifies a request. -/
def requestMaterial (command : QuoteAcceptanceCommand) : Except Exn Json := do
  let origin ← command.origin.toPayload d.rt
  let authorizationMethod ← requireText "authorization_method" command.authorizationMethod
  let authorizationReference ←
    requireText "authorization_reference" command.authorizationReference
  return .obj [("signed_quote", command.signedQuote.toDict), ("origin", .obj origin),
    ("authorization_method", .str authorizationMethod),
    ("authorization_reference", .str authorizationReference),
    ("authority_ttl_seconds", .int command.authorityTtlSeconds)]

/-- The payer of the quote is the party that the origin context names. -/
def checkContext (quote originPayload : Fields) (contextType : ContextType) : Except Exn Unit :=
  match contextType with
  | .merchant => do
    let payer ← quote.objItem "payer"
    require ((← payer.item "actor_id") = (← originPayload.item "merchant_id"))
      ⟨.permissionError, "quote payer does not match merchant context"⟩
  | .p2p => do
    let payer ← quote.objItem "payer"
    require ((← payer.item "actor_id") = (← originPayload.item "continuity_uid"))
      ⟨.permissionError, "quote payer does not match P2P continuity"⟩
  | .partner => .ok ()

/-- The checks on a verified quote. -/
def checkQuote (quote originPayload : Fields) (command : QuoteAcceptanceCommand)
    (acceptedEpoch : Int) : Except Exn Unit := do
  let issuedAt ← quote.intItem "issued_at"
  require (issuedAt ≤ acceptedEpoch) ⟨.permissionError, "quote rejected: QUOTE_NOT_YET_VALID"⟩
  let expiresAt ← quote.intItem "expires_at"
  require (acceptedEpoch < expiresAt) ⟨.permissionError, "quote rejected: QUOTE_EXPIRED"⟩
  require ((← quote.item "purpose") = (← originPayload.item "purpose"))
    ⟨.permissionError, "quote purpose does not match origin purpose"⟩
  checkContext quote originPayload command.origin.contextType
  require (1 ≤ command.authorityTtlSeconds ∧ command.authorityTtlSeconds ≤ 900)
    ⟨.valueError, "authority TTL is outside the permitted range"⟩

/-- The commercial core of a UTT: the terms of the quote, where they come from, and when they were
accepted. -/
def commercialCore (rt : Runtime) (quote originPayload : Fields) (acceptedEpoch : Int)
    (requestSha256 : String) : Except Exn Fields := do
  let quotePayloadSha256 ← rt.payloadSha256 (.obj quote)
  return [("quote_id", ← quote.item "quote_id"),
    ("quote_payload_sha256", .str quotePayloadSha256),
    ("payer", ← quote.item "payer"), ("beneficiary", ← quote.item "beneficiary"),
    ("purpose", ← quote.item "purpose"), ("amount_minor", ← quote.item "amount_minor"),
    ("currency_from", ← quote.item "currency_from"),
    ("receive_amount_minor", ← quote.item "receive_amount_minor"),
    ("currency_to", ← quote.item "currency_to"),
    ("total_fee_minor", ← quote.item "total_fee_minor"),
    ("routing_budget_minor", ← quote.item "routing_budget_minor"),
    ("fx_rate", ← quote.item "fx_rate"), ("corridor_id", ← quote.item "corridor_id"),
    ("service_level", ← quote.item "service_level"),
    ("routing_policy_id", ← quote.item "routing_policy_id"),
    ("pricing_version", ← quote.item "pricing_version"), ("pricing_model", .str "PER_INTENT"),
    ("max_attempts", ← quote.item "max_attempts"), ("origin", .obj originPayload),
    ("accepted_at", .int acceptedEpoch), ("acceptance_request_sha256", .str requestSha256),
    ("custody_model", .str "NON_CUSTODIAL"),
    ("endpoint_model_version", ← quote.item "endpoint_model_version")]

/-- The payload of the sender authority of an accepted quote. -/
def authorityPayload (uttId : String) (quote originPayload : Fields)
    (command : QuoteAcceptanceCommand) (acceptedAt : Instant) : Except Exn Fields := do
  let payer ← quote.objItem "payer"
  ExecutionAuthorityService.senderAuthorityPayload d uttId (← quote.item "quote_id")
    (← payer.item "actor_type") (← payer.item "actor_id") (← quote.item "amount_minor")
    (← quote.item "currency_from") originPayload command.authorizationMethod
    command.authorizationReference acceptedAt (acceptedAt + seconds command.authorityTtlSeconds)

/-- `accept`, once the request is known to be new. -/
def acceptNew (command : QuoteAcceptanceCommand) (idempotencyKey requestSha256 : String)
    (originPayload : Fields) (at_ : Datetime) : Code QuoteAcceptanceResult := do
  let acceptedAt ← requireAware "acceptance timestamp" at_
  Code.requireValid command.signedQuote .quote "quote"
  let quote := command.signedQuote.payload
  checkQuote quote originPayload command (epochSeconds acceptedAt)
  let core ← commercialCore d.rt quote originPayload (epochSeconds acceptedAt) requestSha256
  let uttId ← d.rt.contentId "UTT" (.obj core)
  let authority ← authorityPayload d uttId quote originPayload command acceptedAt
  let senderAuthority ← Code.sign .etkS authority d.authoritySigningKeyId acceptedAt
  let etkSId ← senderAuthority.payload.item "etk_s_id"
  let signedUtt ← Code.sign .utt
    (("utt_id", .str uttId) :: core ++
      [("etk_s_id", etkSId), ("commercial_state", .str "ACCEPTED")])
    d.uttSigningKeyId acceptedAt
  let quoteId ← quote.strItem "quote_id"
  let contract : AcceptedContract :=
    { signedUtt, senderAuthority, quoteId, uttId, requestSha256, acceptedAt }
  let stored ← Code.commitAcceptance idempotencyKey contract
  return ⟨stored.1, stored.2⟩

/-- `accept`. -/
def accept (command : QuoteAcceptanceCommand) (at_ : Datetime) : Code QuoteAcceptanceResult := do
  let idempotencyKey ← requireText "idempotency_key" command.idempotencyKey
  let originPayload ← command.origin.toPayload d.rt
  let material ← requestMaterial d command
  let requestSha256 ← d.rt.payloadSha256 material
  match ← Code.resolveIdempotency idempotencyKey requestSha256 with
  | some existing => return ⟨existing, true⟩
  | none => acceptNew d command idempotencyKey requestSha256 originPayload at_

end QuoteAcceptanceService

end RailOne
