import RailOneCore.Operations.Service
import RailOneCore.Providers.Mpesa
import RailOneCore.Callbacks.Mpesa
import RailOneCore.Platform.Calls

/-!
# Provider adapters behind the institution boundary

The code of `ProviderAdapterInstitutionPlugin`, which puts a provider adapter behind the institution
boundary, and its round trip with the bridge: the bridge turns the request into an instruction, the
plug-in turns the instruction back into a request, and the answer of the adapter is translated twice
on its way back.

The request survives the round trip.  The answer does so only where it says nothing that the
institution boundary cannot carry: the context of the provider is dropped, and the disposition is
rebuilt from the outcome.
-/

namespace RailOne

open Concurrent

/-- `ProviderAdapter`: any code with a state of its own. -/
structure LegacyAdapter (S : Type) where
  providerId : String
  supportsIdempotency : Bool
  submit : ProviderExecutionRequest → S → Except Exn ProviderSubmissionResult × S

/-- The M-PESA adapter as a provider adapter. -/
def MpesaB2CAdapter.legacy {S : Type} (rt : Runtime) (adapter : MpesaB2CAdapter S) :
    LegacyAdapter S where
  providerId := MpesaB2CAdapter.providerId
  supportsIdempotency := MpesaB2CAdapter.supportsIdempotency
  submit := adapter.submit rt

/-- `ProviderAdapterInstitutionPlugin`, with the checks of its constructor. -/
structure ProviderAdapterInstitutionPlugin (rt : Runtime) (S : Type) where
  adapter : LegacyAdapter S
  descriptor : AdapterDescriptor
  manifest : InstitutionCapabilityManifest
  descriptor_eq : descriptor = manifest.descriptor
  provider_eq : rt.upper adapter.providerId = rt.upper descriptor.providerId
  idempotency_eq : adapter.supportsIdempotency = manifest.supportsIdempotency
  submitOnly : manifest.supportsCallbacks = false ∧ manifest.supportsActiveStatus = false ∧
    manifest.supportsReconciliation = false

/-- The request that an instruction stands for: the fields under the same names. -/
def InstitutionExecutionInstruction.toProviderRequest (i : InstitutionExecutionInstruction) :
    ProviderExecutionRequest where
  idempotencyKey := i.idempotencyKey
  requestSha256 := i.requestSha256
  uttId := i.uttId
  rttId := i.rttId
  attemptNumber := i.attemptNumber
  providerId := i.providerId
  adapterBindingRef := .str i.adapterBindingRef
  rail := .str i.rail
  amountMinor := .int i.amountMinor
  currencyFrom := .str i.currencyFrom
  receiveAmountMinor := .int i.receiveAmountMinor
  currencyTo := .str i.currencyTo
  sourceInstitutionId := .str i.sourceInstitutionId
  destinationInstitutionId := .str i.destinationInstitutionId
  payerAccountReference := i.payerAccountReference
  beneficiaryAccountReference := i.beneficiaryAccountReference

namespace ProviderAdapterInstitutionPlugin

variable {rt : Runtime} {S : Type} (plugin : ProviderAdapterInstitutionPlugin rt S)

/-- `validate_instruction`. -/
def validateInstruction (i : InstitutionExecutionInstruction) : Except Exn Unit := do
  require (i.adapterBindingRef = plugin.descriptor.bindingRef)
    ⟨.valueError, "RTT adapter binding does not match plug-in"⟩
  require (rt.upper i.providerId = rt.upper plugin.descriptor.providerId)
    ⟨.valueError, "provider mismatch"⟩
  require (rt.upper i.rail ∈ plugin.manifest.rails) ⟨.valueError, "unsupported rail"⟩
  require (rt.upper i.sourceInstitutionId ∈ plugin.manifest.sourceInstitutionIds)
    ⟨.valueError, "unsupported source institution"⟩
  require (rt.upper i.destinationInstitutionId ∈ plugin.manifest.destinationInstitutionIds)
    ⟨.valueError, "unsupported destination institution"⟩

/-- The outcome that the institution boundary has for an answer. -/
def outcomeOf (result : ProviderSubmissionResult) : InstitutionOutcome :=
  match result.outcome with
  | .accepted => .acceptedForProcessing
  | .rejected =>
    if result.rejectionDisposition = some .retryable then .rejectedRetryable else .rejectedTerminal
  | .unknown => .outcomeUnknown

/-- The state of a dispatch: that of the adapter, and the requests that the adapter was handed. -/
structure Dispatch (S : Type) where
  adapter : S
  handed : List ProviderExecutionRequest

/-- `submit`. -/
def submit (i : InstitutionExecutionInstruction) (s : Dispatch S) :
    Except Exn InstitutionSubmissionResult × Dispatch S :=
  match plugin.validateInstruction i with
  | .error exn => (.error exn, s)
  | .ok _ =>
    let answer := plugin.adapter.submit i.toProviderRequest s.adapter
    (answer.1.map fun result => ⟨outcomeOf result, result.code, result.externalReference⟩,
      ⟨answer.2, s.handed ++ [i.toProviderRequest]⟩)

/-- The plug-in as the bridge meets it. -/
def answer : (o : Op) → Dispatch S → o.Resp × Dispatch S
  | .validateInstruction _ i, s => (plugin.validateInstruction i, s)
  | .submitInstruction _ i, s => plugin.submit i s
  | _, s => (.error ⟨.external, "Unreachable"⟩, s)

/-- `InstitutionAdapterBridge(plugin).submit(request)`. -/
def dispatch (request : ProviderExecutionRequest) (s : S) :
    Except Exn ProviderSubmissionResult × Dispatch S :=
  (ProviderSubmissionCoordinator.bridgeSubmit plugin.descriptor request).run plugin.answer ⟨s, []⟩

end ProviderAdapterInstitutionPlugin

/-! ## The round trip of the request -/

namespace InstitutionExecutionInstruction

theorem boundedText_eq_ok {name : String} {j : Json} {s : String}
    (h : boundedText name j = .ok s) : j = .str s := by
  unfold boundedText at h
  split at h
  · split_ifs at h
    cases h
    rfl
  · cases h

theorem positiveAmount_eq_ok {name : String} {j : Json} {n : Int}
    (h : positiveAmount name j = .ok n) : j = .int n := by
  unfold positiveAmount at h
  split at h
  · split_ifs at h
    cases h
    rfl
  · cases h

theorem currencyCode_eq_ok {name : String} {j : Json} {s : String}
    (h : currencyCode name j = .ok s) : j = .str s := by
  unfold currencyCode at h
  split at h
  · split_ifs at h
    cases h
    rfl
  · cases h

/-- The instruction of a request stands for the request. -/
theorem toProviderRequest_of_fromProviderRequest {r : ProviderExecutionRequest}
    {i : InstitutionExecutionInstruction} (h : fromProviderRequest r = .ok i) :
    i.toProviderRequest = r := by
  unfold fromProviderRequest at h
  simp only [bind_eq_ok] at h
  obtain ⟨key, hkey, uttId, hutt, rttId, hrtt, provider, hprovider, binding, hbinding, rail, hrail,
    source, hsource, destination, hdestination, payer, hpayer, beneficiary, hbeneficiary, h⟩ := h
  split at h
  · cases h
  split at h
  · cases h
  split at h
  · cases h
  simp only [bind_eq_ok, pure_eq_ok] at h
  obtain ⟨amount, hamount, receive, hreceive, currencyFrom, hfrom, currencyTo, hto, rfl⟩ := h
  have htext : ∀ {name : String} {s t : String}, boundedText name (.str s) = .ok t → t = s :=
    fun h => (Json.str.inj (boundedText_eq_ok h)).symm
  cases r
  simp only [toProviderRequest, ProviderExecutionRequest.mk.injEq]
  exact ⟨htext hkey, trivial, htext hutt, htext hrtt, trivial, htext hprovider,
    (boundedText_eq_ok hbinding).symm, (boundedText_eq_ok hrail).symm,
    (positiveAmount_eq_ok hamount).symm, (currencyCode_eq_ok hfrom).symm,
    (positiveAmount_eq_ok hreceive).symm, (currencyCode_eq_ok hto).symm,
    (boundedText_eq_ok hsource).symm, (boundedText_eq_ok hdestination).symm, htext hpayer,
    htext hbeneficiary⟩

end InstitutionExecutionInstruction

/-! ## The round trip of the answer -/

/-- What the bridge answers when the adapter has answered `result`. -/
def bridged (bindingRef : String) (result : ProviderSubmissionResult) : ProviderSubmissionResult where
  outcome := result.outcome
  code := result.code
  externalReference := result.externalReference
  rejectionDisposition :=
    match result.outcome with
    | .rejected =>
      some (if result.rejectionDisposition = some .retryable then .retryable else .terminal)
    | _ => none
  providerContext := [("adapter_binding_ref", bindingRef)]

/-- A normalised success is applied to a submission that was answered with `result`: the stored
context names its originator and bears out its evidence. -/
def Applies (d : Deployment) (n : NormalizedCallback) (result : ProviderSubmissionResult) : Prop :=
  ∃ stored, checkProviderContext result.providerContext = .ok stored ∧
    MpesaCallbackProcessor.contextGet stored "originator_conversation_id" =
      some n.originatorConversationId ∧
    ∃ transactionId, MpesaCallbackProcessor.verifySuccessEvidence d n stored = .ok transactionId

/-- The answer that reaches the coordinator says what the adapter said. -/
structure SameAnswer (d : Deployment) (own answer : ProviderSubmissionResult) : Prop where
  outcome : answer.outcome = own.outcome
  code : answer.code = own.code
  externalReference : answer.externalReference = own.externalReference
  rejectionDisposition : answer.rejectionDisposition = own.rejectionDisposition
  kept : ∀ entry ∈ own.providerContext, entry ∈ answer.providerContext
  added : ∀ entry ∈ answer.providerContext,
    entry ∈ own.providerContext ∨ entry.1 = "adapter_binding_ref"
  callbacks : ∀ n, Applies d n own → Applies d n answer

/-- The bridge preserves the behaviour of the adapter on a request: the adapter is handed the request
once and ends in the state of that one call, its exceptions reach the caller, and so does its
answer. -/
structure Preserves (d : Deployment) {S : Type} (plugin : ProviderAdapterInstitutionPlugin d.rt S)
    (request : ProviderExecutionRequest) (s : S) : Prop where
  handed : (plugin.dispatch request s).2.handed = [request]
  state : (plugin.dispatch request s).2.adapter = (plugin.adapter.submit request s).2
  raised : ∀ exn, (plugin.adapter.submit request s).1 = .error exn →
    (plugin.dispatch request s).1 = .error exn
  answered : ∀ own, (plugin.adapter.submit request s).1 = .ok own →
    ∃ answer, (plugin.dispatch request s).1 = .ok answer ∧ SameAnswer d own answer

/-- The answer of an adapter says nothing that the institution boundary cannot carry: it has a
disposition exactly when it is a rejection, and no context but the binding of the plug-in. -/
def Carried (bindingRef : String) (own : ProviderSubmissionResult) : Prop :=
  ProviderSubmissionCoordinator.checkDisposition own = .ok () ∧
    ∀ entry ∈ own.providerContext, entry = ("adapter_binding_ref", bindingRef)

/-- What is read from a context is in it. -/
theorem mem_of_contextGet {context : ProviderContext} {key value : String}
    (h : MpesaCallbackProcessor.contextGet context key = some value) : (key, value) ∈ context := by
  have haux : ∀ (context : ProviderContext) (dict : Ordered.Dict String String),
      (context.foldl (fun dict p => dict.set p.1 p.2) dict).get? key = some value →
      (key, value) ∈ context ∨ dict.get? key = some value := by
    intro context
    induction context with
    | nil => exact fun dict h => .inr h
    | cons p context ih =>
      intro dict h
      rcases ih _ h with hmem | hget
      · exact .inl (List.mem_cons_of_mem _ hmem)
      · rw [Ordered.Dict.get?_set] at hget
        split_ifs at hget with heq
        · cases hget
          exact .inl (heq ▸ List.mem_cons_self)
        · exact .inr hget
  rcases haux context .empty h with hmem | hget
  · exact hmem
  · cases hget

/-- A success is applied only where the answer of the adapter named its originator. -/
theorem Applies.originator_mem {d : Deployment} {n : NormalizedCallback}
    {result : ProviderSubmissionResult} (h : Applies d n result) :
    ("originator_conversation_id", n.originatorConversationId) ∈ result.providerContext := by
  obtain ⟨stored, hstored, horiginator, -⟩ := h
  unfold checkProviderContext at hstored
  split at hstored
  · cases hstored
  split at hstored
  · cases hstored
  split at hstored
  · cases hstored
  cases hstored
  exact ((List.perm_insertionSort _ _).mem_iff).mp (mem_of_contextGet horiginator)

/-- No success is applied after a dispatch through the bridge. -/
theorem not_applies_bridged (d : Deployment) (n : NormalizedCallback) (bindingRef : String)
    (result : ProviderSubmissionResult) : ¬ Applies d n (bridged bindingRef result) := by
  intro h
  simpa [bridged] using h.originator_mem

/-- The disposition is rebuilt as it was exactly when it was well placed. -/
theorem rejectionDisposition_bridged {bindingRef : String} {own : ProviderSubmissionResult} :
    (bridged bindingRef own).rejectionDisposition = own.rejectionDisposition ↔
      ProviderSubmissionCoordinator.checkDisposition own = .ok () := by
  obtain ⟨outcome, code, reference, disposition, context⟩ := own
  cases outcome <;> rcases disposition with _ | _ | _ <;>
    simp [bridged, ProviderSubmissionCoordinator.checkDisposition, require]

/-- The answer survives the round trip exactly when the institution boundary can carry it. -/
theorem sameAnswer_bridged {d : Deployment} {bindingRef : String} {own : ProviderSubmissionResult} :
    SameAnswer d own (bridged bindingRef own) ↔ Carried bindingRef own := by
  constructor
  · intro h
    refine ⟨rejectionDisposition_bridged.mp h.rejectionDisposition, fun entry hentry => ?_⟩
    simpa [bridged] using h.kept entry hentry
  · rintro ⟨hdisposition, hcontext⟩
    refine ⟨rfl, rfl, rfl, rejectionDisposition_bridged.mpr hdisposition, fun entry hentry => ?_,
      fun entry hentry => .inr ?_, fun n hn => ?_⟩
    · rw [hcontext entry hentry]
      exact List.mem_singleton_self _
    · rw [List.mem_singleton.mp hentry]
    · have hbad := hcontext _ hn.originator_mem
      simp at hbad

/-- What the bridge does with an instruction that the plug-in accepts. -/
theorem dispatch_eq {d : Deployment} {S : Type} (plugin : ProviderAdapterInstitutionPlugin d.rt S)
    {request : ProviderExecutionRequest} {instruction : InstitutionExecutionInstruction} (s : S)
    (hbinding : request.adapterBindingRef = .str plugin.descriptor.bindingRef)
    (hinstruction : InstitutionExecutionInstruction.fromProviderRequest request = .ok instruction)
    (hvalid : plugin.validateInstruction instruction = .ok ()) :
    plugin.dispatch request s =
      ((plugin.adapter.submit request s).1.map (bridged plugin.descriptor.bindingRef),
        ⟨(plugin.adapter.submit request s).2, [request]⟩) := by
  have hround := InstitutionExecutionInstruction.toProviderRequest_of_fromProviderRequest hinstruction
  have hsubmit : plugin.submit instruction ⟨s, []⟩ =
      ((plugin.adapter.submit request s).1.map fun result =>
          ⟨ProviderAdapterInstitutionPlugin.outcomeOf result, result.code, result.externalReference⟩,
        ⟨(plugin.adapter.submit request s).2, [request]⟩) := by
    rw [ProviderAdapterInstitutionPlugin.submit, hvalid, hround]
    rfl
  have hrequire : require (request.adapterBindingRef = .str plugin.descriptor.bindingRef)
      ⟨.valueError, "RTT adapter binding does not match dispatched adapter version"⟩ = .ok () :=
    require_eq_ok.mpr hbinding
  unfold ProviderAdapterInstitutionPlugin.dispatch ProviderSubmissionCoordinator.bridgeSubmit
  simp only [Prog.liftM_eq, hrequire, hinstruction, Prog.ret_ok_bind, call, Prog.call, Prog.op_bind,
    Prog.run, ProviderAdapterInstitutionPlugin.answer, hvalid, hsubmit]
  cases hanswer : (plugin.adapter.submit request s).1 with
  | error exn => rfl
  | ok own =>
    obtain ⟨outcome, code, reference, disposition, context⟩ := own
    cases outcome <;> rcases disposition with _ | _ | _ <;> rfl

/-- For every adapter, every request that the plug-in accepts and every state, the bridge preserves the
behaviour of the adapter if and only if the institution boundary can carry the adapter's answer. -/
theorem legacy_bridge_preserves_iff (d : Deployment) {S : Type}
    (plugin : ProviderAdapterInstitutionPlugin d.rt S) {request : ProviderExecutionRequest}
    {instruction : InstitutionExecutionInstruction} (s : S)
    (hbinding : request.adapterBindingRef = .str plugin.descriptor.bindingRef)
    (hinstruction : InstitutionExecutionInstruction.fromProviderRequest request = .ok instruction)
    (hvalid : plugin.validateInstruction instruction = .ok ()) :
    Preserves d plugin request s ↔
      ∀ own, (plugin.adapter.submit request s).1 = .ok own →
        Carried plugin.descriptor.bindingRef own := by
  have hdispatch := dispatch_eq plugin s hbinding hinstruction hvalid
  constructor
  · intro h own hown
    obtain ⟨answer, hanswer, hsame⟩ := h.answered own hown
    rw [hdispatch, hown, Except.map, Except.ok.injEq] at hanswer
    exact sameAnswer_bridged.mp (hanswer ▸ hsame)
  · intro h
    refine ⟨by rw [hdispatch], by rw [hdispatch], fun exn hexn => ?_, fun own hown => ?_⟩
    · rw [hdispatch, hexn]
      rfl
    · refine ⟨bridged plugin.descriptor.bindingRef own, ?_, sameAnswer_bridged.mpr (h own hown)⟩
      rw [hdispatch, hown]
      rfl

/-! ## A dispatch of the sample -/

namespace Sample

/-- The answer of the M-PESA sandbox to an accepted payment. -/
def acceptance : Fields :=
  [("ConversationID", .str "AG_1"), ("OriginatorConversationID", .str "ORIG_1"),
    ("ResponseCode", .str "0")]

/-- The M-PESA adapter over a network on which every payment is accepted. -/
def mpesaAdapter : MpesaB2CAdapter Unit where
  config :=
    { resultUrl := "https://railone.example/result"
      timeoutUrl := "https://railone.example/timeout" }
  valid := by decide
  credentials s := (.ok ⟨"KEY", "SECRET", "INITIATOR", "CREDENTIAL", "600000"⟩, s)
  tokens s := (.ok "TOKEN", s)
  transport _ s := (.ok ⟨200, utf8Bytes (CanonicalJson.dumps (.obj acceptance))⟩, s)

/-- The binding of the plug-in. -/
def mpesaDescriptor : AdapterDescriptor := ⟨"MPESA-B2C", "1.0.0", "MPESA-KE"⟩

/-- A submit-only manifest for M-PESA. -/
def mpesaManifest : InstitutionCapabilityManifest where
  descriptor := mpesaDescriptor
  certificationStatus := .certified
  sourceInstitutionIds := ["BANK-A"]
  destinationInstitutionIds := ["MPESA"]
  rails := ["MOBILE_MONEY"]
  sourceCountries := ["KE"]
  destinationCountries := ["KE"]
  currenciesFrom := ["KES"]
  currenciesTo := ["KES"]
  supportsIdempotency := false
  supportsCallbacks := false
  supportsActiveStatus := false
  supportsReconciliation := false
  minAmountMinor := 1
  maxAmountMinor := 1000000
  issuedAt := 0
  expiresAt := seconds 1000
  payload := []

/-- The M-PESA adapter behind the institution boundary. -/
def mpesaPlugin : ProviderAdapterInstitutionPlugin deployment.rt Unit where
  adapter := mpesaAdapter.legacy runtime
  descriptor := mpesaDescriptor
  manifest := mpesaManifest
  descriptor_eq := rfl
  provider_eq := rfl
  idempotency_eq := rfl
  submitOnly := ⟨rfl, rfl, rfl⟩

/-- A payment of 1,500 shillings. -/
def mpesaRequest : ProviderExecutionRequest where
  idempotencyKey := "R1IDEM-1"
  requestSha256 := String.ofList (List.replicate 64 'a')
  uttId := "UTT-1"
  rttId := "RTT-1"
  attemptNumber := 1
  providerId := "MPESA-KE"
  adapterBindingRef := .str "MPESA-B2C@1.0.0"
  rail := .str "MOBILE_MONEY"
  amountMinor := .int 150000
  currencyFrom := .str "KES"
  receiveAmountMinor := .int 150000
  currencyTo := .str "KES"
  sourceInstitutionId := .str "BANK-A"
  destinationInstitutionId := .str "MPESA"
  payerAccountReference := "ACC-1"
  beneficiaryAccountReference := "254712345678"

/-- The instruction of the payment. -/
def mpesaInstruction : InstitutionExecutionInstruction :=
  ⟨"R1IDEM-1", String.ofList (List.replicate 64 'a'), "UTT-1", "RTT-1", 1, "MPESA-KE",
    "MPESA-B2C@1.0.0", "MOBILE_MONEY", 150000, "KES", 150000, "KES", "BANK-A", "MPESA", "ACC-1",
    "254712345678"⟩

theorem mpesaRequest_accepted :
    mpesaRequest.adapterBindingRef = .str mpesaPlugin.descriptor.bindingRef ∧
      InstitutionExecutionInstruction.fromProviderRequest mpesaRequest = .ok mpesaInstruction ∧
      mpesaPlugin.validateInstruction mpesaInstruction = .ok () :=
  ⟨rfl, rfl, rfl⟩

/-- The adapter accepts the payment and names amount and originator. -/
theorem submit_mpesaRequest :
    (mpesaPlugin.adapter.submit mpesaRequest ()).1 =
      .ok ⟨.accepted, "MPESA_ACCEPTED_FOR_PROCESSING", some "AG_1", none,
        [("amount_minor", "150000"), ("originator_conversation_id", "ORIG_1")]⟩ := by
  have hloads : runtime.jsonLoads (utf8Bytes (CanonicalJson.dumps (.obj acceptance))) =
      .ok (.obj acceptance) := by
    have hdecode : jsonDecode (utf8Bytes (CanonicalJson.dumps (.obj acceptance))) =
        some (.obj acceptance) := by
      refine jsonDecode_utf8Bytes ?_ ?_
      · simp [acceptance, CanonicalJson.Accepted, CanonicalJson.AcceptedFields]
      · simp [acceptance, Json.DistinctKeys, Json.DistinctKeysFields]
    simp only [runtime, hdecode]
  have hanswer : MpesaB2CAdapter.answer runtime mpesaRequest
      ⟨200, utf8Bytes (CanonicalJson.dumps (.obj acceptance))⟩ =
      .ok (MpesaB2CAdapter.answerTo runtime mpesaRequest 200 acceptance) := by
    simp only [MpesaB2CAdapter.answer, HttpResponse.jsonObject, hloads]
    rfl
  have hscreen : MpesaB2CAdapter.screen mpesaRequest = .ok (.inr (1500, "254712345678")) := by rfl
  have hcode : MpesaB2CAdapter.isShortcode "600000" = true := by decide
  change (MpesaB2CAdapter.submit runtime mpesaAdapter mpesaRequest ()).1 = _
  simp only [MpesaB2CAdapter.submit, hscreen, mpesaAdapter, hcode, not_true_eq_false, if_false,
    hanswer]
  rfl

/-- The success that M-PESA reports for the payment. -/
def mpesaSuccess : NormalizedCallback :=
  ⟨"AG_1", "ORIG_1", some "QAB1", 0, "", Ordered.Dict.empty.set "TransactionAmount" (.int 1500)⟩

/-- A payment that M-PESA does not take. -/
def dollarRequest : ProviderExecutionRequest := { mpesaRequest with currencyFrom := .str "USD" }

/-- The instruction of the payment that M-PESA does not take. -/
def dollarInstruction : InstitutionExecutionInstruction :=
  { mpesaInstruction with currencyFrom := "USD" }

end Sample

/-- Through the bridge, an accepted M-PESA payment loses the amount and the originator: its success
callback, applied after a direct dispatch, is refused. -/
theorem mpesa_context_lost :
    ¬ ∀ (d : Deployment) (S : Type) (plugin : ProviderAdapterInstitutionPlugin d.rt S)
      (request : ProviderExecutionRequest) (instruction : InstitutionExecutionInstruction) (s : S),
      request.adapterBindingRef = .str plugin.descriptor.bindingRef →
      InstitutionExecutionInstruction.fromProviderRequest request = .ok instruction →
      plugin.validateInstruction instruction = .ok () → Preserves d plugin request s := by
  intro hclaim
  obtain ⟨hbinding, hinstruction, hvalid⟩ := Sample.mpesaRequest_accepted
  have h := hclaim Sample.deployment Unit Sample.mpesaPlugin Sample.mpesaRequest
    Sample.mpesaInstruction () hbinding hinstruction hvalid
  have hdispatch := dispatch_eq Sample.mpesaPlugin () hbinding hinstruction hvalid
  obtain ⟨answer, hanswer, hsame⟩ := h.answered _ Sample.submit_mpesaRequest
  rw [hdispatch, Sample.submit_mpesaRequest, Except.map, Except.ok.injEq] at hanswer
  subst hanswer
  refine not_applies_bridged _ Sample.mpesaSuccess _ _ (hsame.callbacks Sample.mpesaSuccess ?_)
  exact ⟨_, rfl, by decide, "QAB1", by rfl⟩

/-- In the sample, the refusal of a payment in dollars survives the bridge. -/
theorem legacy_bridge_preserves_iff_sample :
    Preserves Sample.deployment Sample.mpesaPlugin Sample.dollarRequest () := by
  have hinstruction : InstitutionExecutionInstruction.fromProviderRequest Sample.dollarRequest =
      .ok Sample.dollarInstruction := by rfl
  refine (legacy_bridge_preserves_iff Sample.deployment Sample.mpesaPlugin () rfl hinstruction
    rfl).mpr fun own hown => ?_
  have hrefused : (Sample.mpesaPlugin.adapter.submit Sample.dollarRequest ()).1 =
      .ok (MpesaB2CAdapter.terminal "MPESA_CURRENCY_UNSUPPORTED") := by rfl
  rw [hrefused, Except.ok.injEq] at hown
  subst hown
  exact ⟨rfl, by simp [MpesaB2CAdapter.terminal]⟩

end RailOne
