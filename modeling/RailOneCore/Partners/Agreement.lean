import RailOneCore.Partners.Directory
import RailOneCore.Platform.Calls

/-!
# The two checks of an endpoint

The directory validates the endpoints of a payment twice: when a quote is issued, as the caller wrote
them, and when an attempt starts, as the signed UTT has them, trimmed.  The bindings themselves are
stored untrimmed, so an endpoint with white space around one of its values passes the first check and
fails the second one.
-/

namespace RailOne

open Concurrent Ordered

/-! ## Calls under a directory -/

namespace InMemoryPartnerDirectory

/-- A step that validates an endpoint answers as this directory does. -/
def Answers (dir : InMemoryPartnerDirectory) (rt : Runtime) (o : Op) (r : o.Resp) : Prop :=
  match o, r with
  | .validateEndpoint actorId endpoint role currency, r =>
    r = dir.validateEndpoint rt actorId endpoint role currency
  | _, _ => True

/-- The steps of the services as long as the directory stays as it is. -/
def sem (dir : InMemoryPartnerDirectory) (rt : Runtime) (o : Op) (w : World) (r : o.Resp)
    (w' : World) : Prop :=
  World.sem rt o w r w' ∧ dir.Answers rt o r

variable {dir : InMemoryPartnerDirectory} {rt : Runtime}

theorem ends_validateEndpoint {actorId currency : Json} {e : AccountEndpoint} {role : AccountRole}
    {r : Except Exn Unit} :
    (Code.validateEndpoint actorId e role currency).Ends (dir.sem rt) r ↔
      r = dir.validateEndpoint rt actorId e role currency := by
  refine Prog.ends_call.trans ⟨?_, ?_⟩
  · rintro ⟨w, w', -, hanswer⟩
    exact hanswer
  · intro hanswer
    exact ⟨World.initial .empty, World.initial .empty, rfl, hanswer⟩

/-- A signed artifact carries the payload it was made from, whoever else is at work. -/
theorem payload_of_ends_sign {t : ArtifactType} {payload : Fields} {keyId : String} {at_ : Instant}
    {e : SignatureEnvelope} (h : (Code.sign t payload keyId at_).Ends (dir.sem rt) (.ok e)) :
    e.payload = payload := by
  obtain ⟨w, w', hsem, -⟩ := Prog.ends_call.mp h
  exact (SignatureService.signArtifact_eq_ok (sem_sign_ok.mp hsem).1).1

end InMemoryPartnerDirectory

/-! ## What is signed -/

theorem truncate_of_length_le {s : String} {n : ℕ} (h : s.length ≤ n) : truncate s n = s := by
  rw [← String.length_toList] at h
  rw [truncate, List.take_of_length_le h, String.ofList_toList]

theorem length_strip_le (s : String) : (strip s).length ≤ s.length := by
  rw [← String.length_toList, ← String.length_toList]
  exact (toList_strip_sublist s).length_le

theorem AccountRole.ofValue_value (r : AccountRole) : AccountRole.ofValue r.value = some r := by
  cases r <;> rfl

theorem AccountType.ofValue_value (t : AccountType) : AccountType.ofValue t.value = some t := by
  cases t <;> rfl

/-- The endpoint as a payload has it. -/
def AccountEndpoint.trimmed (e : AccountEndpoint) : AccountEndpoint where
  institutionId := strip e.institutionId
  institutionDisplayName := truncate (strip e.institutionDisplayName) 48
  accountBindingId := strip e.accountBindingId
  role := e.role
  accountType := e.accountType
  displayHint := truncate (strip e.displayHint) 32
  contactBindingId := strip e.contactBindingId
  attestationReference := strip e.attestationReference

/-- Reading a payload back gives the trimmed endpoint. -/
theorem AccountEndpoint.fromPayload_of_toPayload {e : AccountEndpoint} {p : Fields}
    (h : e.toPayload = .ok p) : AccountEndpoint.fromPayload p = .ok e.trimmed := by
  simp only [toPayload, bind_eq_ok, requireText_eq_ok, pure_eq_ok] at h
  obtain ⟨_, ⟨rfl, -⟩, _, ⟨rfl, -⟩, _, ⟨rfl, -⟩, _, ⟨rfl, -⟩, _, ⟨rfl, -⟩, _, ⟨rfl, -⟩, rfl⟩ := h
  have hrole := AccountRole.ofValue_value e.role
  have htype := AccountType.ofValue_value e.accountType
  simp [fromPayload, Fields.strItem, Fields.item, Fields.get, List.lookup, bind, Except.bind, hrole,
    htype, trimmed]

/-- The payload of a party names its trimmed identifier and its endpoint. -/
theorem ActorReference.toPayload_eq_ok {rt : Runtime} {a : ActorReference} {p : Fields}
    (h : a.toPayload rt = .ok p) :
    p.get "actor_id" = some (.str (strip a.actorId)) ∧
      ∃ endpoint, p.get "endpoint" = some (.obj endpoint) ∧ a.endpoint.toPayload = .ok endpoint := by
  unfold toPayload at h
  split at h
  · split_ifs at h
    · simp only [bind_eq_ok, requireText_eq_ok, pure_eq_ok] at h
      obtain ⟨_, -, _, -, _, ⟨rfl, -⟩, _, -, endpoint, hendpoint, rfl⟩ := h
      exact ⟨rfl, endpoint, rfl, hendpoint⟩
    · simp only [bind_eq_ok, requireText_eq_ok, pure_eq_ok] at h
      obtain ⟨_, -, _, -, _, -, _, ⟨rfl, -⟩, _, -, endpoint, hendpoint, rfl⟩ := h
      exact ⟨rfl, endpoint, rfl, hendpoint⟩
  · simp only [bind_eq_ok, requireText_eq_ok, pure_eq_ok] at h
    obtain ⟨_, -, _, -, _, -, _, ⟨rfl, -⟩, _, -, endpoint, hendpoint, rfl⟩ := h
    exact ⟨rfl, endpoint, rfl, hendpoint⟩

/-- The payload of one side of a payment, under its names. -/
structure Fields.Carries (rt : Runtime) (utt : Fields) (side currencyName : String)
    (a : ActorReference) (currency : String) : Prop where
  party : ∃ p, utt.get side = some (.obj p) ∧ a.toPayload rt = .ok p
  currency : utt.get currencyName = some (.str (rt.upper (strip currency)))

/-- What matters is what the two names lead to. -/
theorem Fields.Carries.mono {rt : Runtime} {f g : Fields} {side currencyName currency : String}
    {a : ActorReference} (h : f.Carries rt side currencyName a currency)
    (hside : ∀ v, f.get side = some v → g.get side = some v)
    (hcurrency : ∀ v, f.get currencyName = some v → g.get currencyName = some v) :
    g.Carries rt side currencyName a currency := by
  obtain ⟨p, hp, hpayload⟩ := h.party
  exact ⟨⟨p, hside _ hp, hpayload⟩, hcurrency _ h.currency⟩

/-- `if p: raise e` before the rest of a computation. -/
theorem throw_bind_eq_ok {α : Type} {p : Prop} [Decidable p] {e : Exn} {f : Unit → Except Exn α}
    {a : α} : (if p then throw e >>= f else f ()) = .ok a ↔ ¬ p ∧ f () = .ok a := by
  by_cases hp : p
  · rw [if_pos hp]
    exact ⟨nofun, fun h => absurd hp h.1⟩
  · rw [if_neg hp]
    exact ⟨fun h => ⟨hp, h⟩, And.right⟩

/-- The fields of a quote are those of its terms. -/
theorem QuoteTerms.toPayload_eq_ok {rt : Runtime} {q : QuoteTerms} {p : Fields}
    (h : q.toPayload rt = .ok p) :
    p.Carries rt "payer" "currency_from" q.payer q.currencyFrom ∧
      p.Carries rt "beneficiary" "currency_to" q.beneficiary q.currencyTo := by
  unfold toPayload at h
  obtain ⟨_, -, h⟩ := bind_eq_ok.mp h
  obtain ⟨_, -, h⟩ := bind_eq_ok.mp h
  obtain ⟨_, -, h⟩ := bind_eq_ok.mp h
  obtain ⟨_, -, h⟩ := bind_eq_ok.mp h
  obtain ⟨-, h⟩ := throw_bind_eq_ok.mp h
  obtain ⟨-, h⟩ := throw_bind_eq_ok.mp h
  obtain ⟨fxRate, -, h⟩ := bind_eq_ok.mp h
  dsimp only at h
  split at h
  · cases h
  · cases h
  obtain ⟨-, h⟩ := throw_bind_eq_ok.mp h
  obtain ⟨-, h⟩ := throw_bind_eq_ok.mp h
  simp only [bind_eq_ok, requireText_eq_ok, pure_eq_ok] at h
  obtain ⟨_, -, payer, hpayer, beneficiary, hbeneficiary, _, ⟨rfl, -⟩, _, ⟨rfl, -⟩, _, -, _, -, _, -, _,
    -, rfl⟩ := h
  exact ⟨⟨⟨payer, rfl, hpayer⟩, rfl⟩, ⟨beneficiary, rfl, hbeneficiary⟩, rfl⟩

/-! ## From the quote to the attempt -/

section Pipeline

variable {d : Deployment} {dir : InMemoryPartnerDirectory} {terms : QuoteTerms} {keyId : String}
  {issuedAt expiresAt at_ : Datetime} {quote : SignatureEnvelope} {command : QuoteAcceptanceCommand}
  {result : QuoteAcceptanceResult}

/-- A quote is issued for endpoints that the directory backs as the terms name them, and carries the
two sides. -/
theorem backs_of_ends_issueQuote (hd : d.quoteEndpoints = .validated)
    (h : (QuoteService.issueQuote d terms keyId issuedAt expiresAt).Ends (dir.sem d.rt) (.ok quote)) :
    (∃ b, dir.Backs d.rt terms.payer.actorId terms.payer.endpoint .debit terms.currencyFrom b) ∧
      (∃ b, dir.Backs d.rt terms.beneficiary.actorId terms.beneficiary.endpoint .credit
        terms.currencyTo b) ∧
      quote.payload.Carries d.rt "payer" "currency_from" terms.payer terms.currencyFrom ∧
      quote.payload.Carries d.rt "beneficiary" "currency_to" terms.beneficiary terms.currencyTo := by
  simp only [QuoteService.issueQuote, QuoteService.validateEndpoints, hd, Prog.ends_bind_ok,
    Prog.ends_lift_ok, InMemoryPartnerDirectory.ends_validateEndpoint] at h
  obtain ⟨issued, -, expiry, -, -, -, -, -, payload, hpayload, _, ⟨_, hpayer, hbeneficiary⟩, quoteId, -,
    hsign⟩ := h
  have hcarries := QuoteTerms.toPayload_eq_ok hpayload
  have hget : ∀ k v, k ≠ "quote_id" → payload.get k = some v → quote.payload.get k = some v := by
    intro k v hk hv
    have hne : (k == "quote_id") = false := beq_eq_false_iff_ne.mpr hk
    rw [Fields.get] at hv
    rw [InMemoryPartnerDirectory.payload_of_ends_sign hsign, Fields.get, List.lookup_cons, hne,
      List.lookup_append, hv, Option.some_or]
  exact ⟨InMemoryPartnerDirectory.validateEndpoint_eq_ok.mp hpayer.symm,
    InMemoryPartnerDirectory.validateEndpoint_eq_ok.mp hbeneficiary.symm,
    hcarries.1.mono (hget _ · (by decide)) (hget _ · (by decide)),
    hcarries.2.mono (hget _ · (by decide)) (hget _ · (by decide))⟩

/-- The UTT of an accepted quote carries the two sides of the quote. -/
theorem carries_of_ends_accept
    (h : (QuoteAcceptanceService.accept d command at_).Ends (dir.sem d.rt) (.ok result))
    (hnew : result.replayed = false) {a b : ActorReference} {currencyFrom currencyTo : String}
    (hpayer : command.signedQuote.payload.Carries d.rt "payer" "currency_from" a currencyFrom)
    (hbeneficiary :
      command.signedQuote.payload.Carries d.rt "beneficiary" "currency_to" b currencyTo) :
    result.contract.signedUtt.payload.Carries d.rt "payer" "currency_from" a currencyFrom ∧
      result.contract.signedUtt.payload.Carries d.rt "beneficiary" "currency_to" b currencyTo := by
  simp only [QuoteAcceptanceService.accept, Prog.ends_bind_ok, Prog.ends_lift_ok] at h
  obtain ⟨idempotencyKey, -, origin, -, material, -, requestSha256, -, existing, -, h⟩ := h
  cases existing with
  | some existing =>
    have hresult := Except.ok.inj (Prog.ends_ret.mp h)
    rw [hresult] at hnew
    cases hnew
  | none =>
    simp only [QuoteAcceptanceService.acceptNew, Prog.ends_bind_ok, Prog.ends_lift_ok] at h
    obtain ⟨acceptedAt, -, -, -, -, -, core, hcore, uttId, -, authority, -, senderAuthority, -, etkSId,
      -, signedUtt, hsign, quoteId, -, stored, hcommit, h⟩ := h
    have hresult := Except.ok.inj (Prog.ends_ret.mp h)
    have hcontract : result.contract.signedUtt = signedUtt := by
      obtain ⟨w, w', hsem, -⟩ := Prog.ends_call.mp hcommit
      rcases hsem.cases with ⟨res, st, hok, hres, -⟩ | ⟨exn, -, hres, -⟩
      · rw [Except.ok.injEq] at hres
        subst hres
        rw [hresult] at hnew ⊢
        rcases ContractStore.commitAcceptance_eq_ok hok with ⟨-, htrue, -⟩ | ⟨heq, -⟩
        · rw [htrue] at hnew
          cases hnew
        · rw [heq]
      · cases hres
    have hget : ∀ k v, k ≠ "utt_id" → core.get k = some v →
        result.contract.signedUtt.payload.get k = some v := by
      intro k v hk hv
      have hne : (k == "utt_id") = false := beq_eq_false_iff_ne.mpr hk
      rw [Fields.get] at hv
      rw [hcontract, InMemoryPartnerDirectory.payload_of_ends_sign hsign, Fields.get,
        List.cons_append, List.lookup_cons, hne, List.lookup_append, hv, Option.some_or]
    simp only [QuoteAcceptanceService.commercialCore, bind_eq_ok, pure_eq_ok, Fields.item_eq_ok]
      at hcore
    obtain ⟨_, -, _, -, _, hpayer', _, hbeneficiary', _, -, _, -, _, hcurrencyFrom, _, -, _,
      hcurrencyTo, _, -, _, -, _, -, _, -, _, -, _, -, _, -, _, -, _, -, rfl⟩ := hcore
    refine ⟨hpayer.mono (fun v hv => ?_) (fun v hv => ?_),
      hbeneficiary.mono (fun v hv => ?_) (fun v hv => ?_)⟩
    · rw [hpayer'] at hv
      exact hget _ _ (by decide) hv
    · rw [hcurrencyFrom] at hv
      exact hget _ _ (by decide) hv
    · rw [hbeneficiary'] at hv
      exact hget _ _ (by decide) hv
    · rw [hcurrencyTo] at hv
      exact hget _ _ (by decide) hv

/-- When an attempt starts, one side is validated with its trimmed values. -/
theorem ends_validateSide {utt : Fields} {side currencyName currency : String} {a : ActorReference}
    {role : AccountRole} {r : Except Exn Unit}
    (h : utt.Carries d.rt side currencyName a currency) :
    (RttAttemptService.validateSide utt side currencyName role).Ends (dir.sem d.rt) r ↔
      r = dir.validateEndpoint d.rt (.str (strip a.actorId)) a.endpoint.trimmed role
        (.str (d.rt.upper (strip currency))) := by
  obtain ⟨p, hp, hpayload⟩ := h.party
  obtain ⟨hactor, endpoint, hendpoint, hfields⟩ := ActorReference.toPayload_eq_ok hpayload
  have hside : utt.objItem side = .ok p := Fields.objItem_eq_ok.mpr hp
  have hitem : Fields.item p "actor_id" = .ok (.str (strip a.actorId)) := Fields.item_eq_ok.mpr hactor
  have hobject : Fields.objItem p "endpoint" = .ok endpoint := Fields.objItem_eq_ok.mpr hendpoint
  have hcurrency : utt.item currencyName = .ok (.str (d.rt.upper (strip currency))) :=
    Fields.item_eq_ok.mpr h.currency
  unfold RttAttemptService.validateSide
  rw [hside, hcurrency]
  simp only [Prog.liftM_eq, Prog.ret_ok_bind, hitem, hobject,
    AccountEndpoint.fromPayload_of_toPayload hfields]
  exact InMemoryPartnerDirectory.ends_validateEndpoint

end Pipeline

/-! ## When the checks agree -/

/-- No value of the side that is compared with a binding has white space around it. -/
structure ActorReference.Trimmed (a : ActorReference) (currency : String) : Prop where
  actorId : strip a.actorId = a.actorId
  accountBindingId : strip a.endpoint.accountBindingId = a.endpoint.accountBindingId
  institutionId : strip a.endpoint.institutionId = a.endpoint.institutionId
  displayHint : strip a.endpoint.displayHint = a.endpoint.displayHint
  contactBindingId : strip a.endpoint.contactBindingId = a.endpoint.contactBindingId
  attestationReference :
    strip a.endpoint.attestationReference = a.endpoint.attestationReference
  currency : strip currency = currency

namespace InMemoryPartnerDirectory

/-- The identifier of the binding has white space around it, and under the trimmed identifier the
directory has another active binding, at an active institution, that has the trimmed values. -/
structure Twin (dir : InMemoryPartnerDirectory) (rt : Runtime) (a : ActorReference)
    (role : AccountRole) (currency : String) (b : AccountBinding) : Prop where
  padded : strip a.endpoint.accountBindingId ≠ a.endpoint.accountBindingId
  stored : dir.bindings.get? (strip a.endpoint.accountBindingId) = some b
  institution : ∃ i, dir.institutions.get? b.institutionId = some i ∧ i.status = .active
  active : b.status = .active
  actorId : b.actorId = strip a.actorId
  role : b.role = role
  accountType : b.accountType = a.endpoint.accountType
  institutionId : b.institutionId = strip a.endpoint.institutionId
  displayHint : b.displayHint = strip a.endpoint.displayHint
  contactBindingId : b.contactBindingId = strip a.endpoint.contactBindingId
  attestationReference : b.attestationReference = strip a.endpoint.attestationReference
  currency : rt.upper b.currency = rt.upper (strip currency)

/-- The side is trimmed, or has a twin in the directory. -/
def Keeps (dir : InMemoryPartnerDirectory) (rt : Runtime) (a : ActorReference) (role : AccountRole)
    (currency : String) : Prop :=
  a.Trimmed currency ∨ ∃ b, dir.Twin rt a role currency b

variable {dir : InMemoryPartnerDirectory} {rt : Runtime} {a : ActorReference} {role : AccountRole}
  {currency : String} {b : AccountBinding}

/-- The hint of a binding is not cut. -/
theorem Backs.truncate_displayHint {actorId : String} {e : AccountEndpoint}
    (h : dir.Backs rt actorId e role currency b) : e.trimmed.displayHint = strip e.displayHint := by
  obtain ⟨b', hb'⟩ := dir.checked _ b h.stored
  have hlength := AccountBinding.length_displayHint_of_normalized hb'
  rw [h.displayHint] at hlength
  exact truncate_of_length_le ((length_strip_le _).trans hlength)

/-- A binding that backs a side backs the trimmed side as well, if the side is trimmed. -/
theorem Backs.of_trimmed (h : dir.Backs rt a.actorId a.endpoint role currency b)
    (htrimmed : a.Trimmed currency) :
    dir.Backs rt (strip a.actorId) a.endpoint.trimmed role (rt.upper (strip currency)) b where
  stored := by
    rw [AccountEndpoint.trimmed, htrimmed.accountBindingId]
    exact h.stored
  institution := h.institution
  active := h.active
  actorId := h.actorId.trans htrimmed.actorId.symm
  required := h.required
  institutionId := h.institutionId.trans htrimmed.institutionId.symm
  role := h.role
  accountType := h.accountType
  displayHint := by rw [h.truncate_displayHint, htrimmed.displayHint, h.displayHint]
  contactBindingId := h.contactBindingId.trans htrimmed.contactBindingId.symm
  attestationReference := h.attestationReference.trans htrimmed.attestationReference.symm
  currency := by rw [Runtime.upper_upper, htrimmed.currency, h.currency]

/-- A twin backs the trimmed side. -/
theorem Twin.backs {b₀ : AccountBinding} (h₀ : dir.Backs rt a.actorId a.endpoint role currency b₀)
    (h : dir.Twin rt a role currency b) :
    dir.Backs rt (strip a.actorId) a.endpoint.trimmed role (rt.upper (strip currency)) b where
  stored := h.stored
  institution := h.institution
  active := h.active
  actorId := h.actorId
  required := h.role
  institutionId := h.institutionId
  role := (h.role.trans h₀.required.symm).trans h₀.role
  accountType := h.accountType
  displayHint := by rw [h₀.truncate_displayHint, h.displayHint]
  contactBindingId := h.contactBindingId
  attestationReference := h.attestationReference
  currency := by rw [Runtime.upper_upper, h.currency]

/-- For a side that the directory backs, the trimmed side is backed if and only if the side is trimmed
or has a twin. -/
theorem keeps_iff (h₀ : ∃ b₀, dir.Backs rt a.actorId a.endpoint role currency b₀) :
    (∃ b, dir.Backs rt (strip a.actorId) a.endpoint.trimmed role (rt.upper (strip currency)) b) ↔
      dir.Keeps rt a role currency := by
  obtain ⟨b₀, h₀⟩ := h₀
  constructor
  · rintro ⟨b, h⟩
    have hhint := h₀.truncate_displayHint
    have hcurrency : rt.upper b.currency = rt.upper (strip currency) := by
      rw [h.currency, Runtime.upper_upper]
    by_cases hid : strip a.endpoint.accountBindingId = a.endpoint.accountBindingId
    · -- both checks look at the same binding
      have heq : b₀ = b := by
        have hstored : dir.bindings.get? (strip a.endpoint.accountBindingId) = some b := h.stored
        rw [hid, h₀.stored, Option.some.injEq] at hstored
        exact hstored
      subst heq
      exact .inl
        { actorId := h.actorId.symm.trans h₀.actorId
          accountBindingId := hid
          institutionId := h.institutionId.symm.trans h₀.institutionId
          displayHint := hhint.symm.trans (h.displayHint.symm.trans h₀.displayHint)
          contactBindingId := h.contactBindingId.symm.trans h₀.contactBindingId
          attestationReference := h.attestationReference.symm.trans h₀.attestationReference
          currency := rt.upper_strip_eq_upper.mp (hcurrency.symm.trans h₀.currency) }
    · exact .inr ⟨b,
        { padded := hid
          stored := h.stored
          institution := h.institution
          active := h.active
          actorId := h.actorId
          role := h.required
          accountType := h.accountType
          institutionId := h.institutionId
          displayHint := h.displayHint.trans hhint
          contactBindingId := h.contactBindingId
          attestationReference := h.attestationReference
          currency := hcurrency }⟩
  · rintro (htrimmed | ⟨b, htwin⟩)
    · exact ⟨b₀, h₀.of_trimmed htrimmed⟩
    · exact ⟨b, htwin.backs h₀⟩

end InMemoryPartnerDirectory

/-- The UTT of a quote that was issued and accepted under the directory passes when an attempt starts
if and only if each side is trimmed, or has a twin. -/
theorem ends_validateEndpoints_iff {d : Deployment} {dir : InMemoryPartnerDirectory}
    (hattempt : d.attemptEndpoints = .validated) {utt : Fields} {a b : ActorReference}
    {currencyFrom currencyTo : String} {r : Except Exn Unit}
    (hpayer : ∃ c, dir.Backs d.rt a.actorId a.endpoint .debit currencyFrom c)
    (hbeneficiary : ∃ c, dir.Backs d.rt b.actorId b.endpoint .credit currencyTo c)
    (hcarries : utt.Carries d.rt "payer" "currency_from" a currencyFrom ∧
      utt.Carries d.rt "beneficiary" "currency_to" b currencyTo)
    (h : (RttAttemptService.validateEndpoints d utt).Ends (dir.sem d.rt) r) :
    r = .ok () ↔ dir.Keeps d.rt a .debit currencyFrom ∧ dir.Keeps d.rt b .credit currencyTo := by
  rw [← InMemoryPartnerDirectory.keeps_iff hpayer, ← InMemoryPartnerDirectory.keeps_iff hbeneficiary,
    ← InMemoryPartnerDirectory.validateEndpoint_eq_ok (u := ()),
    ← InMemoryPartnerDirectory.validateEndpoint_eq_ok (u := ())]
  rw [RttAttemptService.validateEndpoints, hattempt] at h
  rcases Prog.ends_bind.mp h with ⟨_, hfirst, hsecond⟩ | ⟨exn, hfirst, hr⟩
  · rw [ends_validateSide hcarries.1] at hfirst
    rw [ends_validateSide hcarries.2] at hsecond
    rw [hsecond]
    exact ⟨fun hok => ⟨hfirst.symm, hok⟩, And.right⟩
  · rw [ends_validateSide hcarries.1] at hfirst
    rw [hr, ← hfirst]
    exact ⟨nofun, fun hok => nomatch hok.1⟩

section Agreement

variable {d : Deployment} {dir : InMemoryPartnerDirectory} {terms : QuoteTerms} {keyId : String}
  {issuedAt expiresAt at_ : Datetime} {quote : SignatureEnvelope} {command : QuoteAcceptanceCommand}
  {result : QuoteAcceptanceResult}

/-- The endpoints of an accepted quote pass when an attempt starts if and only if each side is trimmed,
or has a twin in the directory. -/
theorem endpoint_checks_agree_iff (hquote : d.quoteEndpoints = .validated)
    (hattempt : d.attemptEndpoints = .validated)
    (hissued : (QuoteService.issueQuote d terms keyId issuedAt expiresAt).Ends (dir.sem d.rt)
      (.ok quote))
    (hcommand : command.signedQuote = quote)
    (haccepted : (QuoteAcceptanceService.accept d command at_).Ends (dir.sem d.rt) (.ok result))
    (hnew : result.replayed = false) {r : Except Exn Unit}
    (hstarted : (RttAttemptService.validateEndpoints d result.contract.signedUtt.payload).Ends
      (dir.sem d.rt) r) :
    r = .ok () ↔ dir.Keeps d.rt terms.payer .debit terms.currencyFrom ∧
      dir.Keeps d.rt terms.beneficiary .credit terms.currencyTo := by
  obtain ⟨hpayer, hbeneficiary, hquoted⟩ := backs_of_ends_issueQuote hquote hissued
  subst hcommand
  have hcarries := carries_of_ends_accept haccepted hnew hquoted.1 hquoted.2
  exact ends_validateEndpoints_iff hattempt hpayer hbeneficiary hcarries hstarted

/-- No attempt starts for an accepted quote one of whose sides is neither trimmed nor has a twin. -/
theorem keeps_of_runs_startNext (hquote : d.quoteEndpoints = .validated)
    (hattempt : d.attemptEndpoints = .validated)
    (hissued : (QuoteService.issueQuote d terms keyId issuedAt expiresAt).Ends (dir.sem d.rt)
      (.ok quote))
    (hcommand : command.signedQuote = quote)
    (haccepted : (QuoteAcceptanceService.accept d command at_).Ends (dir.sem d.rt) (.ok result))
    (hnew : result.replayed = false) {w w' : World} {uttId : String} {startedAt : Datetime}
    {attempt : RttAttemptRecord}
    (hutt : w.contracts.utts.get? (strip uttId) = some result.contract.signedUtt)
    (hrun : (RttAttemptService.startNext d uttId startedAt).Runs (dir.sem d.rt) w (.ok attempt) w') :
    dir.Keeps d.rt terms.payer .debit terms.currencyFrom ∧
      dir.Keeps d.rt terms.beneficiary .credit terms.currencyTo := by
  obtain ⟨hpayer, hbeneficiary, hquoted⟩ := backs_of_ends_issueQuote hquote hissued
  subst hcommand
  have hcarries := carries_of_ends_accept haccepted hnew hquoted.1 hquoted.2
  simp only [RttAttemptService.startNext, Prog.runs_bind_ok, Prog.runs_lift_ok, requireText_eq_ok]
    at hrun
  obtain ⟨instant, _, ⟨-, rfl⟩, key, _, ⟨⟨rfl, -⟩, rfl⟩, signedUtt, w₁, hread, _, w₂, -, _, w₃, -, _, w₄,
    hvalidated, -⟩ := hrun
  have hsigned : signedUtt = result.contract.signedUtt := by
    obtain ⟨⟨hanswer, -⟩, -⟩ := Prog.runs_call.mp hread
    have hstored := ContractStore.requireUtt_eq_ok.mp hanswer.symm
    rw [hutt, Option.some.injEq] at hstored
    exact hstored.symm
  subst hsigned
  exact (ends_validateEndpoints_iff hattempt hpayer hbeneficiary hcarries hvalidated.ends).mp rfl

end Agreement

/-! ## A sample -/

namespace Sample

/-- The sample deployment, with a directory. -/
def partnerDeployment : Deployment :=
  { deployment with quoteEndpoints := .validated, attemptEndpoints := .validated }

/-- The keys of the sample, with one for quotes. -/
def partnerKeys : KeyProvider where
  records := keys.records.set "QUOTE" (keyRecord "QUOTE" .quoteSigning)
  privateKeys := keys.privateKeys.set "QUOTE" ByteArray.empty

/-- An institution of the sample. -/
def institution (institutionId : String) : PartnerInstitution where
  institutionId := institutionId
  displayName := "Sample Bank"
  countryCodes := ["KE"]
  currencies := ["KES"]
  supportedRoles := [.debit, .credit]
  status := .active

/-- A binding of the sample. -/
def binding (id actorId institutionId displayHint : String) (role : AccountRole) :
    AccountBinding where
  accountBindingId := id
  actorId := actorId
  institutionId := institutionId
  role := role
  accountType := .bankAccount
  currency := "KES"
  displayHint := displayHint
  contactBindingId := "CONTACT-1"
  attestationReference := "ATT-1"
  status := .active

/-- The directory of the sample, with a given hint for the account of the payer. -/
def directory (hint : String) : InMemoryPartnerDirectory :=
  let built := do
    let dir ← InMemoryPartnerDirectory.empty.addInstitution (institution "BANK-A")
    let dir ← dir.addInstitution (institution "BANK-B")
    let dir ← dir.addBinding (binding "ACC-1" "ALICE" "BANK-A" hint .debit)
    dir.addBinding (binding "ACC-2" "BOB" "BANK-B" "*5678" .credit)
  built.toOption.getD .empty

/-- One party, with the endpoint of its binding. -/
def side (b : AccountBinding) : ActorReference :=
  ⟨"PERSON", b.actorId, b.endpoint "Sample Bank", some b.actorId⟩

/-- The terms of the sample. -/
def quoteTerms (hint : String) : QuoteTerms where
  requestId := "REQ-1"
  payer := side (binding "ACC-1" "ALICE" "BANK-A" hint .debit)
  beneficiary := side (binding "ACC-2" "BOB" "BANK-B" "*5678" .credit)
  purpose := .personToPerson
  amountMinor := 150000
  currencyFrom := "KES"
  receiveAmountMinor := 150000
  currencyTo := "KES"
  totalFeeMinor := 100
  routingBudgetMinor := 100
  fxRate := "1"
  corridorId := "KE-KE"
  serviceLevel := "STANDARD"
  routingPolicyId := "P1"
  pricingVersion := "V1"
  maxAttempts := 3

/-- The steps of the sample, with the directory. -/
def partnerAnswer (hint : String) (o : Op) (w : World) : o.Resp × World :=
  w.answer runtime (fun
    | .validateEndpoint actorId e role currency =>
      (directory hint).validateEndpoint runtime actorId e role currency
    | o => oracle o) o

theorem sem_partnerAnswer (hint : String) (o : Op) (w : World) :
    (directory hint).sem runtime o w (partnerAnswer hint o w).1 (partnerAnswer hint o w).2 := by
  refine ⟨w.sem_answer _ _ o, ?_⟩
  cases o with
  | validateEndpoint => rfl
  | _ => trivial

/-- The quote of the sample. -/
def quoteRun (hint : String) : Except Exn SignatureEnvelope × World :=
  (QuoteService.issueQuote partnerDeployment (quoteTerms hint) "QUOTE" (.aware 0)
    (.aware (seconds 300))).run (partnerAnswer hint) (World.initial partnerKeys)

/-- The acceptance of a quote. -/
def partnerAcceptance (quote : SignatureEnvelope) : QuoteAcceptanceCommand where
  signedQuote := quote
  origin := ⟨"APP", "INTENT-1", .p2p, .personToPerson, some "ALICE", none, none, none⟩
  authorizationMethod := "PIN"
  authorizationReference := "AUTH-1"
  idempotencyKey := "KEY-1"
  authorityTtlSeconds := 900

/-- The acceptance of the quote of the sample. -/
def acceptRun (hint : String) (quote : SignatureEnvelope) :
    Except Exn QuoteAcceptanceResult × World :=
  (QuoteAcceptanceService.accept partnerDeployment (partnerAcceptance quote) (.aware 0)).run
    (partnerAnswer hint) (quoteRun hint).2

/-- The checks when an attempt starts. -/
def startRun (hint : String) (result : QuoteAcceptanceResult) : Except Exn Unit × World :=
  (RttAttemptService.validateEndpoints partnerDeployment
    result.contract.signedUtt.payload).run (partnerAnswer hint) (World.initial partnerKeys)

/-- A whole run of the sample: what the checks say in the end. -/
def partnerRun (hint : String) : Option (Bool × Except Exn Unit) := do
  let quote ← (quoteRun hint).1.toOption
  let result ← (acceptRun hint quote).1.toOption
  return (result.replayed, (startRun hint result).1)

theorem partnerRun_padded : partnerRun "*1234 " = some (false, .error
    ⟨.permissionError, "account endpoint snapshot does not match its binding"⟩) := by
  decide +kernel

theorem ends_partnerAnswer {α : Type} {hint : String} {p : Code α} {w : World} {r : Except Exn α}
    (h : (p.run (partnerAnswer hint) w).1 = r) :
    p.Ends ((directory hint).sem partnerDeployment.rt) r :=
  h ▸ (Prog.runs_run (fun o w => sem_partnerAnswer hint o w) p w).ends

/-- The calls behind a run of the sample. -/
theorem exists_of_partnerRun {hint : String} {replayed : Bool} {r : Except Exn Unit}
    (h : partnerRun hint = some (replayed, r)) :
    ∃ quote result,
      (QuoteService.issueQuote partnerDeployment (quoteTerms hint) "QUOTE" (.aware 0)
        (.aware (seconds 300))).Ends ((directory hint).sem partnerDeployment.rt) (.ok quote) ∧
      (QuoteAcceptanceService.accept partnerDeployment (partnerAcceptance quote) (.aware 0)).Ends
        ((directory hint).sem partnerDeployment.rt) (.ok result) ∧
      result.replayed = replayed ∧
      (RttAttemptService.validateEndpoints partnerDeployment
        result.contract.signedUtt.payload).Ends ((directory hint).sem partnerDeployment.rt) r := by
  unfold partnerRun at h
  cases hquote : (quoteRun hint).1 with
  | error exn =>
    rw [hquote] at h
    cases h
  | ok quote =>
    rw [hquote] at h
    cases hresult : (acceptRun hint quote).1 with
    | error exn =>
      simp only [Except.toOption, Option.bind_eq_bind, Option.bind_some, hresult] at h
      cases h
    | ok result =>
      simp only [Except.toOption, Option.bind_eq_bind, Option.bind_some, hresult] at h
      obtain ⟨hreplayed, hr⟩ := Prod.mk.inj (Option.some.inj h)
      unfold quoteRun at hquote
      unfold acceptRun at hresult
      unfold startRun at hr
      exact ⟨quote, result, ends_partnerAnswer hquote, ends_partnerAnswer hresult, hreplayed,
        ends_partnerAnswer hr⟩

end Sample

/-- A hint with a space after it passes when the quote is issued, and no attempt can start. -/
theorem padded_hint_strands :
    ¬ ∀ (d : Deployment) (dir : InMemoryPartnerDirectory) (terms : QuoteTerms) (keyId : String)
        (issuedAt expiresAt at_ : Datetime) (quote : SignatureEnvelope)
        (command : QuoteAcceptanceCommand) (result : QuoteAcceptanceResult) (r : Except Exn Unit),
      d.quoteEndpoints = .validated → d.attemptEndpoints = .validated →
      (∃ id, dir.selectEndpoint (.str terms.payer.actorId) id .debit = .ok terms.payer.endpoint) →
      (∃ id, dir.selectEndpoint (.str terms.beneficiary.actorId) id .credit =
        .ok terms.beneficiary.endpoint) →
      (QuoteService.issueQuote d terms keyId issuedAt expiresAt).Ends (dir.sem d.rt) (.ok quote) →
      command.signedQuote = quote →
      (QuoteAcceptanceService.accept d command at_).Ends (dir.sem d.rt) (.ok result) →
      result.replayed = false →
      (RttAttemptService.validateEndpoints d result.contract.signedUtt.payload).Ends
        (dir.sem d.rt) r → r = .ok () := by
  intro hclaim
  obtain ⟨quote, result, hissued, haccepted, hnew, hstarted⟩ :=
    Sample.exists_of_partnerRun Sample.partnerRun_padded
  have hpayer : (Sample.directory "*1234 ").selectEndpoint (.str "ALICE") "ACC-1" .debit =
      .ok (Sample.quoteTerms "*1234 ").payer.endpoint := by decide +kernel
  have hbeneficiary : (Sample.directory "*1234 ").selectEndpoint (.str "BOB") "ACC-2" .credit =
      .ok (Sample.quoteTerms "*1234 ").beneficiary.endpoint := by decide +kernel
  cases hclaim Sample.partnerDeployment (Sample.directory "*1234 ") (Sample.quoteTerms "*1234 ")
    "QUOTE" (.aware 0) (.aware (seconds 300)) (.aware 0) quote (Sample.partnerAcceptance quote) result _ rfl rfl
    ⟨_, hpayer⟩ ⟨_, hbeneficiary⟩ hissued rfl haccepted hnew hstarted

/-- In the sample, one of the sides is not kept. -/
theorem endpoint_checks_agree_iff_sample :
    ¬ ((Sample.directory "*1234 ").Keeps Sample.partnerDeployment.rt
        (Sample.quoteTerms "*1234 ").payer .debit "KES" ∧
      (Sample.directory "*1234 ").Keeps Sample.partnerDeployment.rt
        (Sample.quoteTerms "*1234 ").beneficiary .credit "KES") := by
  obtain ⟨quote, result, hissued, haccepted, hnew, hstarted⟩ :=
    Sample.exists_of_partnerRun Sample.partnerRun_padded
  have hquote : Sample.partnerDeployment.quoteEndpoints = .validated := rfl
  have hattempt : Sample.partnerDeployment.attemptEndpoints = .validated := rfl
  have hcommand : (Sample.partnerAcceptance quote).signedQuote = quote := rfl
  have hiff := endpoint_checks_agree_iff hquote hattempt hissued hcommand haccepted hnew hstarted
  intro hkeeps
  cases hiff.mpr hkeeps

end RailOne
