import RailOneCore.Institutions.Models

/-!
# The M-PESA B2C adapter

The code of `MpesaB2CAdapter.submit`.  A request is screened before anything is sent; credentials and
tokens are fetched, and then the payment is posted once.  An acceptance carries the identifiers of the
conversation, and the adapter attaches the amount and the identifier of the originator to it, which
is what the callback processor correlates with later.

Credentials, tokens and the transport are any code with a state of its own.
-/

namespace RailOne

structure MpesaCredentials where
  consumerKey : String
  consumerSecret : String
  initiatorName : String
  securityCredential : String
  businessShortcode : String
  deriving DecidableEq, Repr

structure MpesaConfig where
  baseUrl : String := "https://sandbox.safaricom.co.ke"
  oauthPath : String := "/oauth/v1/generate?grant_type=client_credentials"
  b2cPath : String := "/mpesa/b2c/v3/paymentrequest"
  resultUrl : String := ""
  timeoutUrl : String := ""
  commandId : String := "BusinessPayment"
  timeoutSeconds : Int := 15
  deriving DecidableEq, Repr

/-- `MpesaConfig.validate`. -/
def MpesaConfig.validate (c : MpesaConfig) : Except Exn Unit := do
  require (startsWith c.baseUrl "https://") ⟨.valueError, "M-PESA base URL must use HTTPS"⟩
  require (startsWith c.resultUrl "https://") ⟨.valueError, "M-PESA result_url must use HTTPS"⟩
  require (startsWith c.timeoutUrl "https://") ⟨.valueError, "M-PESA timeout_url must use HTTPS"⟩
  require (c.commandId ∈ ["BusinessPayment", "SalaryPayment", "PromotionPayment"])
    ⟨.valueError, "unsupported M-PESA B2C command"⟩
  require (1 ≤ c.timeoutSeconds ∧ c.timeoutSeconds ≤ 60)
    ⟨.valueError, "M-PESA timeout must be between 1 and 60 seconds"⟩

/-- A request over HTTP.  The body is the JSON object that is written to it. -/
structure HttpRequest where
  method : String
  url : String
  headers : List (String × String)
  body : Fields
  timeoutSeconds : Int
  deriving DecidableEq, Repr

structure HttpResponse where
  statusCode : Int
  body : ByteArray

/-- `HttpResponse.json_object`. -/
def HttpResponse.jsonObject (rt : Runtime) (response : HttpResponse) : Except Exn Fields := do
  match ← rt.jsonLoads response.body with
  | .obj value => return value
  | _ => .error ⟨.valueError, "provider response must be a JSON object"⟩

/-- `MpesaB2CAdapter`, with the code that it calls. -/
structure MpesaB2CAdapter (S : Type) where
  config : MpesaConfig
  valid : config.validate = .ok ()
  credentials : S → Except Exn MpesaCredentials × S
  tokens : S → Except Exn String × S
  transport : HttpRequest → S → Except Exn HttpResponse × S

namespace MpesaB2CAdapter

/-- `provider_id`. -/
def providerId : String := "MPESA-KE"

/-- `supports_idempotency`. -/
def supportsIdempotency : Bool := false

/-- `_terminal`. -/
def terminal (code : String) : ProviderSubmissionResult :=
  ⟨.rejected, code, none, some .terminal, []⟩

/-- `_unknown`. -/
def unknown (code : String) : ProviderSubmissionResult := ⟨.unknown, code, none, none, []⟩

/-- The answer when no token is to be had: nothing has been sent, so that a retry is safe. -/
def authUnavailable : ProviderSubmissionResult :=
  ⟨.rejected, "MPESA_AUTH_UNAVAILABLE", none, some .retryable, []⟩

/-- Runs of characters that satisfy `p`, each replaced by one underscore. -/
def collapse (p : Char → Bool) : Bool → List Char → List Char
  | _, [] => []
  | inRun, c :: t =>
    if p c then (if inRun then collapse p true t else '_' :: collapse p true t)
    else c :: collapse p false t

/-- `_safe_code`. -/
def safeCode (rt : Runtime) (value : String) : String :=
  let safe := fun c : Char => ('A' ≤ c && c ≤ 'Z') || ('0' ≤ c && c ≤ '9')
  let collapsed := collapse (fun c => ! safe c) false (rt.upper value).toList
  let trimmed := (collapsed.dropWhile (· == '_')).rdropWhile (· == '_')
  if trimmed = [] then "UNKNOWN" else String.ofList (trimmed.take 80)

/-- The digits `0` to `9`. -/
def isAsciiDigit (c : Char) : Bool := '0' ≤ c && c ≤ '9'

/-- `re.fullmatch(r"254[17][0-9]{8}", text)`. -/
def isMsisdn (text : String) : Bool :=
  match text.toList with
  | '2' :: '5' :: '4' :: c :: digits =>
    (c == '1' || c == '7') && digits.length == 8 && digits.all isAsciiDigit
  | _ => false

/-- `re.fullmatch(r"[0-9]{5,10}", text)`. -/
def isShortcode (text : String) : Bool :=
  5 ≤ text.length && text.length ≤ 10 && text.toList.all isAsciiDigit

/-- The checks before anything is sent: a refusal, or the whole amount and the receiving number. -/
def screen (request : ProviderExecutionRequest) :
    Except Exn (ProviderSubmissionResult ⊕ Int × String) :=
  if request.providerId ≠ providerId then
    .error ⟨.valueError, "M-PESA adapter received another provider's request"⟩
  else if request.rail ≠ .str "MOBILE_MONEY" then .ok (.inl (terminal "MPESA_RAIL_UNSUPPORTED"))
  else if request.currencyFrom ≠ .str "KES" ∨ request.currencyTo ≠ .str "KES" then
    .ok (.inl (terminal "MPESA_CURRENCY_UNSUPPORTED"))
  else if request.amountMinor.comparable ≠ request.receiveAmountMinor.comparable then
    .ok (.inl (terminal "MPESA_DOMESTIC_AMOUNT_MISMATCH"))
  else match request.amountMinor.comparable with
  | .int amountMinor =>
    if amountMinor % 100 ≠ 0 ∨ amountMinor / 100 ≤ 0 then
      .ok (.inl (terminal "MPESA_WHOLE_KES_REQUIRED"))
    else if ¬ isMsisdn (strip request.beneficiaryAccountReference) then
      .ok (.inl (terminal "MPESA_BENEFICIARY_MSISDN_INVALID"))
    else .ok (.inr (amountMinor / 100, strip request.beneficiaryAccountReference))
  | _ => .error ⟨.typeError, "unsupported operand type(s) for divmod()"⟩

/-- `url.rstrip("/")`. -/
def rstripSlash (url : String) : String := String.ofList (url.toList.rdropWhile (· == '/'))

/-- The request that posts the payment. -/
def paymentRequest (config : MpesaConfig) (credentials : MpesaCredentials) (accessToken : String)
    (request : ProviderExecutionRequest) (amount : Int) (msisdn : String) : HttpRequest where
  method := "POST"
  url := rstripSlash config.baseUrl ++ config.b2cPath
  headers := [("Authorization", "Bearer " ++ accessToken), ("Accept", "application/json"),
    ("Content-Type", "application/json")]
  body := [("InitiatorName", .str credentials.initiatorName),
    ("SecurityCredential", .str credentials.securityCredential),
    ("CommandID", .str config.commandId), ("Amount", .int amount),
    ("PartyA", .str credentials.businessShortcode), ("PartyB", .str msisdn),
    ("Remarks", .str (String.ofList (("RailOne " ++ request.rttId).toList.take 100))),
    ("QueueTimeOutURL", .str config.timeoutUrl), ("ResultURL", .str config.resultUrl),
    ("Occasion", .str (String.ofList (request.idempotencyKey.toList.take 100)))]
  timeoutSeconds := config.timeoutSeconds

/-- The answer to an acceptance, which must name the conversation and its originator. -/
def accepted (rt : Runtime) (request : ProviderExecutionRequest) (result : Fields) :
    ProviderSubmissionResult :=
  match result.get "ConversationID", result.get "OriginatorConversationID" with
  | some (.str conversationId), some (.str originatorId) =>
    if conversationId = "" ∨ originatorId = "" then
      unknown "MPESA_ACCEPTANCE_REFERENCE_MISSING"
    else ⟨.accepted, "MPESA_ACCEPTED_FOR_PROCESSING", some conversationId, none,
      [("amount_minor", rt.str request.amountMinor), ("originator_conversation_id", originatorId)]⟩
  | _, _ => unknown "MPESA_ACCEPTANCE_REFERENCE_MISSING"

/-- The answer to a parsed response. -/
def answerTo (rt : Runtime) (request : ProviderExecutionRequest) (statusCode : Int)
    (result : Fields) : ProviderSubmissionResult :=
  let responseCode := rt.str ((result.get "ResponseCode").getD (.str ""))
  if 200 ≤ statusCode ∧ statusCode < 300 ∧ responseCode = "0" then accepted rt request result
  else if responseCode ≠ "" then terminal ("MPESA_REJECTED_" ++ safeCode rt responseCode)
  else unknown ("MPESA_HTTP_" ++ statusCode.repr ++ "_OUTCOME_UNKNOWN")

/-- The answer to a response. -/
def answer (rt : Runtime) (request : ProviderExecutionRequest) (response : HttpResponse) :
    Except Exn ProviderSubmissionResult :=
  match response.jsonObject rt with
  | .ok result => .ok (answerTo rt request response.statusCode result)
  | .error exn =>
    if exn.isValueError then .ok (unknown "MPESA_RESPONSE_UNPARSEABLE") else .error exn

/-- `submit`. -/
def submit {S : Type} (rt : Runtime) (adapter : MpesaB2CAdapter S)
    (request : ProviderExecutionRequest) (s : S) : Except Exn ProviderSubmissionResult × S :=
  match screen request with
  | .error exn => (.error exn, s)
  | .ok (.inl refusal) => (.ok refusal, s)
  | .ok (.inr (amount, msisdn)) =>
    match adapter.credentials s with
    | (.error _, s) => (.ok authUnavailable, s)
    | (.ok credentials, s) =>
      match adapter.tokens s with
      | (.error _, s) => (.ok authUnavailable, s)
      | (.ok accessToken, s) =>
        if ¬ isShortcode credentials.businessShortcode then
          (.ok (terminal "MPESA_SHORTCODE_INVALID"), s)
        else
          match adapter.transport
            (paymentRequest adapter.config credentials accessToken request amount msisdn) s with
          | (.error exn, s) => (.error exn, s)
          | (.ok response, s) => (answer rt request response, s)

/-! ## What an answer says -/

/-- An accepted request was for a positive amount in Kenyan shillings, and its answer carries the
conversation, the amount and the originator; any other answer carries no reference. -/
inductive Says (request : ProviderExecutionRequest) : ProviderSubmissionResult → Prop
  | accepted (amountMinor : ℕ) (conversationId originatorId : String)
      (hprovider : request.providerId = providerId) (hamount : request.amountMinor = .int amountMinor)
      (hcurrency : request.currencyFrom = .str "KES" ∧ request.currencyTo = .str "KES")
      (hreferences : conversationId ≠ "" ∧ originatorId ≠ "") :
      Says request ⟨.accepted, "MPESA_ACCEPTED_FOR_PROCESSING", some conversationId, none,
        [("amount_minor", amountMinor.repr), ("originator_conversation_id", originatorId)]⟩
  | other (result : ProviderSubmissionResult) (houtcome : result.outcome ≠ .accepted)
      (hreference : result.externalReference = none) (hcontext : result.providerContext = []) :
      Says request result

/-- A screened request is for a positive amount in Kenyan shillings. -/
theorem screen_eq_inr {request : ProviderExecutionRequest} {amount : Int} {msisdn : String}
    (h : screen request = .ok (.inr (amount, msisdn))) :
    request.providerId = providerId ∧
      (request.currencyFrom = .str "KES" ∧ request.currencyTo = .str "KES") ∧
      ∃ n : ℕ, request.amountMinor = .int n := by
  unfold screen at h
  by_cases hprovider : request.providerId = providerId
  swap
  · rw [if_pos hprovider] at h
    cases h
  rw [if_neg (not_not.mpr hprovider)] at h
  by_cases hrail : request.rail ≠ .str "MOBILE_MONEY"
  · rw [if_pos hrail] at h
    cases h
  rw [if_neg hrail] at h
  by_cases hcurrency : request.currencyFrom ≠ .str "KES" ∨ request.currencyTo ≠ .str "KES"
  · rw [if_pos hcurrency] at h
    cases h
  rw [if_neg hcurrency] at h
  rw [not_or, not_not, not_not] at hcurrency
  by_cases hreceive : request.amountMinor.comparable ≠ request.receiveAmountMinor.comparable
  · rw [if_pos hreceive] at h
    cases h
  rw [if_neg hreceive] at h
  split at h
  · next amountMinor hamount =>
    by_cases hwhole : amountMinor % 100 ≠ 0 ∨ amountMinor / 100 ≤ 0
    · rw [if_pos hwhole] at h
      cases h
    refine ⟨hprovider, hcurrency, amountMinor.toNat, ?_⟩
    have hpos : 100 ≤ amountMinor := by omega
    have hcast : (amountMinor.toNat : Int) = amountMinor := Int.toNat_of_nonneg (by omega)
    rw [hcast]
    cases hj : request.amountMinor with
    | int n =>
      rw [hj] at hamount
      exact hamount
    | bool b =>
      -- a Boolean is no multiple of a hundred
      rw [hj] at hamount
      simp only [Json.comparable, Json.int.injEq] at hamount
      cases b <;> simp at hamount <;> omega
    | obj fields =>
      rw [hj] at hamount
      simp [Json.comparable, CanonicalJson.sortKeys] at hamount
    | null | float | str | arr =>
      rw [hj] at hamount
      simp [Json.comparable] at hamount
  · cases h

/-- A refusal of the screen carries no reference. -/
theorem says_of_screen {request : ProviderExecutionRequest} {refusal : ProviderSubmissionResult}
    (h : screen request = .ok (.inl refusal)) : Says request refusal := by
  have hterminal : ∃ code, refusal = terminal code := by
    unfold screen at h
    repeat' first
      | (split at h)
      | (cases h; exact ⟨_, rfl⟩)
      | cases h
  obtain ⟨code, rfl⟩ := hterminal
  exact .other _ nofun rfl rfl

/-- The answers to a response. -/
theorem says_of_answer {rt : Runtime} {request : ProviderExecutionRequest} {response : HttpResponse}
    {result : ProviderSubmissionResult} {n : ℕ} (hprovider : request.providerId = providerId)
    (hamount : request.amountMinor = .int n)
    (hcurrency : request.currencyFrom = .str "KES" ∧ request.currencyTo = .str "KES")
    (h : answer rt request response = .ok result) : Says request result := by
  have hunknown : ∀ code, Says request (unknown code) := fun code => .other _ nofun rfl rfl
  unfold answer at h
  split at h
  · next fields _ =>
    rw [Except.ok.injEq] at h
    subst h
    unfold answerTo
    dsimp only
    split_ifs
    · unfold accepted
      split
      · next conversationId originatorId _ _ =>
        split_ifs with hempty
        · exact hunknown _
        · rw [not_or] at hempty
          have hstr : rt.str request.amountMinor = n.repr := by
            rw [hamount]
            rfl
          rw [hstr]
          exact .accepted n conversationId originatorId hprovider hamount hcurrency hempty
      · exact hunknown _
    · exact .other _ nofun rfl rfl
    · exact hunknown _
  · split_ifs at h
    cases h
    exact hunknown _

/-- The answers of the adapter. -/
theorem says_of_submit {S : Type} {rt : Runtime} {adapter : MpesaB2CAdapter S}
    {request : ProviderExecutionRequest} {s s' : S} {result : ProviderSubmissionResult}
    (h : adapter.submit rt request s = (.ok result, s')) : Says request result := by
  have hother : ∀ code, Says request (terminal code) := fun code => .other _ nofun rfl rfl
  have hauth : Says request authUnavailable := .other _ nofun rfl rfl
  unfold submit at h
  split at h
  · cases h
  · next refusal hscreen =>
    cases h
    exact says_of_screen hscreen
  · next amount msisdn hscreen =>
    obtain ⟨hprovider, hcurrency, n, hamount⟩ := screen_eq_inr hscreen
    have hanswer : ∀ response, answer rt request response = .ok result → Says request result :=
      fun response => says_of_answer hprovider hamount hcurrency
    split at h
    · cases h
      exact hauth
    · split at h
      · cases h
        exact hauth
      · split at h
        · cases h
          exact hother _
        · split at h
          · cases h
          · next response s'' _ =>
            rw [Prod.mk.injEq] at h
            exact hanswer response h.1

end MpesaB2CAdapter

end RailOne
