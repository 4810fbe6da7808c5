import RailOneCore.Institutions.Generic
import RailOneCore.Institutions.Manifest

/-!
# The registry of institution adapters

An adapter is registered with a signed manifest, which must verify and say what the adapter says.  The
registry finds the adapters that cover a route, and resolves one exact version of an adapter.

A manifest that is signed in the second in which it is issued, but after the beginning of that second,
is refused: its signature keeps the whole second.  Adapters that are found can be resolved, and the
instruction of a route they were found for is one they accept.
-/

namespace RailOne

open ArtifactService Ordered

/-- The protocol `InstitutionAdapter`, as far as the registry uses it. -/
class InstitutionAdapter (α : Type) where
  descriptor : α → InstitutionDescriptor
  capabilities : α → CapabilityManifest

export InstitutionAdapter (descriptor capabilities)

/-- What a route asks for. -/
structure AdapterEligibilityQuery where
  sourceInstitutionId : String
  destinationInstitutionId : String
  sourceCountry : String
  destinationCountry : String
  rail : String
  currencyFrom : String
  currencyTo : String
  amountMinor : Int
  deriving DecidableEq, Repr

/-- The entries of `InstitutionAdapterRegistry`, by binding reference. -/
abbrev InstitutionAdapterRegistry (α : Type) := Dict String (α × SignedManifest)

/-- The manifest covers the route. -/
def AdapterEligibilityQuery.Covered (rt : Runtime) (query : AdapterEligibilityQuery)
    (m : CapabilityManifest) : Prop :=
  rt.upper query.sourceInstitutionId ∈ m.sourceInstitutionIds ∧
    rt.upper query.destinationInstitutionId ∈ m.destinationInstitutionIds ∧
    rt.upper query.sourceCountry ∈ m.sourceCountries ∧
    rt.upper query.destinationCountry ∈ m.destinationCountries ∧ rt.upper query.rail ∈ m.rails ∧
    rt.upper query.currencyFrom ∈ m.currenciesFrom ∧ rt.upper query.currencyTo ∈ m.currenciesTo ∧
    m.minAmountMinor ≤ query.amountMinor ∧ query.amountMinor ≤ m.maxAmountMinor

instance (rt : Runtime) (query : AdapterEligibilityQuery) (m : CapabilityManifest) :
    Decidable (query.Covered rt m) := by
  unfold AdapterEligibilityQuery.Covered
  infer_instance

namespace InstitutionAdapterRegistry

variable {α : Type} [InstitutionAdapter α] (rt : Runtime)

/-- The binding reference of an adapter. -/
def refOf (adapter : α) : String := (descriptor adapter).bindingRef

/-- `register`. -/
def register (keys : KeyProvider) (registry : InstitutionAdapterRegistry α) (adapter : α)
    (signed : SignedManifest) : Except Exn (InstitutionAdapterRegistry α) := do
  CapabilityManifestSigner.verify rt keys signed
  require (descriptor adapter = signed.manifest.descriptor)
    ⟨.valueError, "adapter descriptor does not match signed manifest"⟩
  require ((capabilities adapter).toPayload = signed.manifest.toPayload)
    ⟨.valueError, "adapter capabilities do not match signed manifest"⟩
  match registry.get? (refOf adapter) with
  | none => return registry.set (refOf adapter) (adapter, signed)
  | some existing =>
    require (existing.2.signature.signature = signed.signature.signature)
      ⟨.valueError, "binding reference already registered with different signed capabilities"⟩
    return registry.set (refOf adapter) (adapter, signed)

/-- `resolve` at an instant. -/
def resolve (registry : InstitutionAdapterRegistry α) (bindingRef : String) (at_ : Instant) :
    Except Exn α :=
  match registry.get? bindingRef with
  | none => .error ⟨.keyError, "institution adapter binding not found: " ++ bindingRef⟩
  | some (adapter, signed) => do
    require (signed.manifest.isActiveAt at_)
      ⟨.permissionError, "institution adapter manifest is inactive or expired"⟩
    require (signed.manifest.descriptor.certificationStatus ≠ .draft)
      ⟨.permissionError, "draft institution adapter cannot execute"⟩
    return adapter

/-- An entry of the registry is eligible for a route at an instant. -/
def Eligible (query : AdapterEligibilityQuery) (at_ : Instant) (signed : SignedManifest) :
    Prop :=
  signed.manifest.isActiveAt at_ = true ∧ signed.manifest.descriptor.certificationStatus ≠ .draft ∧
    query.Covered rt signed.manifest

instance (query : AdapterEligibilityQuery) (at_ : Instant) (signed : SignedManifest) :
    Decidable (Eligible rt query at_ signed) := by
  unfold Eligible
  infer_instance

/-- The key that adapters are sorted by. -/
def keyOf (adapter : α) : Int ×ₗ String := toLex ((descriptor adapter).priority, refOf adapter)

/-- The order of `sorted(matched, key=...)`. -/
def sortsBefore (a b : α) : Prop := keyOf a ≤ keyOf b

instance : DecidableRel (sortsBefore (α := α)) := fun a b =>
  inferInstanceAs (Decidable (keyOf a ≤ keyOf b))

instance : Std.Total (sortsBefore (α := α)) := ⟨fun a b => le_total (keyOf a) (keyOf b)⟩

instance : IsTrans α sortsBefore := ⟨fun _ _ _ hab hbc => le_trans hab hbc⟩

/-- `eligible` at an instant. -/
def eligible (registry : InstitutionAdapterRegistry α) (query : AdapterEligibilityQuery)
    (at_ : Instant) : List α :=
  ((registry.values.filter fun entry => Eligible rt query at_ entry.2).map Prod.fst).insertionSort
    sortsBefore

/-! ## Registrations -/

/-- The checks of a registration, apart from the one against an earlier registration. -/
structure Admitted (keys : KeyProvider) (adapter : α) (signed : SignedManifest) : Prop where
  verified : CapabilityManifestSigner.verify rt keys signed = .ok ()
  sameDescriptor : descriptor adapter = signed.manifest.descriptor
  samePayload : (capabilities adapter).toPayload = signed.manifest.toPayload

variable {rt} {keys : KeyProvider} {registry registry' : InstitutionAdapterRegistry α} {adapter : α}
  {signed : SignedManifest}

theorem register_eq_ok : register rt keys registry adapter signed = .ok registry' ↔
    Admitted rt keys adapter signed ∧
      (∀ existing, registry.get? (refOf adapter) = some existing →
        existing.2.signature.signature = signed.signature.signature) ∧
      registry' = registry.set (refOf adapter) (adapter, signed) := by
  simp only [register, bind_eq_ok, require_eq_ok]
  constructor
  · rintro ⟨_, hverified, _, hdescriptor, _, hcapabilities, h⟩
    refine ⟨⟨hverified, hdescriptor, hcapabilities⟩, ?_⟩
    cases hget : registry.get? (refOf adapter) with
    | none =>
      simp only [hget, pure_eq_ok] at h
      exact ⟨by simp, h.symm⟩
    | some existing =>
      simp only [hget, bind_eq_ok, require_eq_ok, pure_eq_ok] at h
      obtain ⟨_, hsame, heq⟩ := h
      refine ⟨fun existing' h' => ?_, heq.symm⟩
      obtain rfl := Option.some.inj h'
      exact hsame
  · rintro ⟨⟨hverified, hdescriptor, hcapabilities⟩, hsame, rfl⟩
    refine ⟨(), hverified, (), hdescriptor, (), hcapabilities, ?_⟩
    cases hget : registry.get? (refOf adapter) with
    | none => simp only [pure_eq_ok]
    | some existing =>
      simp only [bind_eq_ok, require_eq_ok, pure_eq_ok]
      exact ⟨(), hsame existing hget, trivial⟩

/-- A key that can sign, and a manifest: the signed manifest is accepted by the verifier, and by a
registry in which nothing else is registered under its binding reference, exactly when the key has a
name and the whole second of the signature is in the windows of the key and of the manifest. -/
theorem signed_manifest_accepted_iff (hrt : FaithfulSignatures rt) {before : List KeyCall}
    {keyId : String} {record : KeyRecord} {issuedAt : Instant}
    (hrecord : (run rt before).getKeyRecord keyId = some record)
    (hsigns : SignatureService.Signs (run rt before) .institutionCapabilityManifest keyId issuedAt)
    (m : CapabilityManifest) :
    ∃ signed, CapabilityManifestSigner.sign rt (run rt before) keyId m issuedAt = .ok signed ∧
      ∀ after, (∀ later, (run rt (before ++ after)).getKeyRecord keyId = some later →
          later.status ≠ .revoked) →
        (CapabilityManifestSigner.verify rt (run rt (before ++ after)) signed = .ok () ↔
          keyId ≠ "" ∧ CapabilityManifestSigner.SecondInWindows record m issuedAt) ∧
        ∀ (registry : InstitutionAdapterRegistry α) (adapter : α), descriptor adapter = m.descriptor →
          capabilities adapter = m →
          (∀ existing, registry.get? (refOf adapter) = some existing →
            existing.2.signature.signature = signed.signature.signature) →
          ((∃ registry', register rt (run rt (before ++ after)) registry adapter signed = .ok registry') ↔
            keyId ≠ "" ∧ CapabilityManifestSigner.SecondInWindows record m issuedAt) := by
  obtain ⟨signed, hsigned⟩ := CapabilityManifestSigner.exists_sign rt m hsigns
  refine ⟨signed, hsigned, fun after hlive => ?_⟩
  have hverify := CapabilityManifestSigner.verify_sign_iff hrt hsigned hrecord hlive
  refine ⟨hverify, fun registry adapter hdescriptor hcapabilities hfree => ?_⟩
  obtain ⟨rfl, -⟩ := CapabilityManifestSigner.sign_eq_ok hsigned
  constructor
  · rintro ⟨registry', h⟩
    exact hverify.mp (register_eq_ok.mp h).1.verified
  · intro hseconds
    exact ⟨_, register_eq_ok.mpr
      ⟨⟨hverify.mpr hseconds, hdescriptor, congrArg CapabilityManifest.toPayload hcapabilities⟩, hfree,
        rfl⟩⟩

end InstitutionAdapterRegistry

/-- `GenericHttpInstitutionAdapter` with the whole of its manifest, whose descriptor is its own. -/
structure ConfiguredAdapter where
  generic : GenericHttpInstitutionAdapter
  manifest : CapabilityManifest
  view_eq : generic.manifest = manifest.view

instance : InstitutionAdapter ConfiguredAdapter where
  descriptor adapter := adapter.manifest.descriptor
  capabilities := ConfiguredAdapter.manifest

namespace Sample

open InstitutionAdapterRegistry

/-- The manifest of a bank, which holds from an instant on. -/
def bankManifest (issuedAt : Instant) : CapabilityManifest where
  manifestId := "BANK-MANIFEST"
  manifestVersion := 1
  descriptor :=
    { adapterId := "BANK"
      adapterVersion := "1.0.0"
      providerId := "BANK-A"
      networkId := "NET-A"
      environment := .sandbox
      transport := .https
      messageStandard := .json
      authProfile := .simulation
      certificationStatus := .certified }
  sourceInstitutionIds := ["BANK-A"]
  destinationInstitutionIds := ["BANK-B"]
  sourceCountries := ["KE"]
  destinationCountries := ["KE"]
  rails := ["MOBILE"]
  currenciesFrom := ["KES"]
  currenciesTo := ["KES"]
  operations := [.submit]
  supportsIdempotency := false
  supportsCallbacks := false
  supportsActiveStatus := false
  supportsReconciliation := false
  assertedFinality := .processing
  minAmountMinor := 1
  maxAmountMinor := 1000000
  requestTimeoutSeconds := 15
  issuedAt := issuedAt
  expiresAt := seconds 1000

/-- The adapter of the bank. -/
def bankAdapter (issuedAt : Instant) : ConfiguredAdapter where
  generic := { blankAdapter with
    descriptor := (bankManifest issuedAt).view.descriptor
    manifest := (bankManifest issuedAt).view
    descriptor_eq := rfl }
  manifest := bankManifest issuedAt
  view_eq := rfl

/-- A key for manifests. -/
def manifestKeyCalls : List KeyCall :=
  [.generate "secret".toUTF8 "EXEC" "RAILONE" .executionSigning 0 (seconds 1000)]

/-- The keys after that call. -/
abbrev manifestKeys : KeyProvider := ArtifactService.run sealedRuntime manifestKeyCalls

theorem signs_manifest : SignatureService.Signs manifestKeys .institutionCapabilityManifest "EXEC"
    1500000 := by
  refine ⟨_, _, rfl, rfl, ?_, rfl⟩
  decide

theorem live_manifestKeys : ∀ later,
    (ArtifactService.run sealedRuntime (manifestKeyCalls ++ [])).getKeyRecord "EXEC" = some later →
      later.status ≠ .revoked := by
  intro later hlater
  cases hlater
  decide

/-- A manifest that is issued at the beginning of a second and signed within the second is accepted. -/
theorem signed_manifest_accepted_iff_sample : ∃ signed registry',
    CapabilityManifestSigner.sign sealedRuntime manifestKeys "EXEC" (bankManifest (seconds 1)) 1500000 =
      .ok signed ∧
    register sealedRuntime manifestKeys .empty (bankAdapter (seconds 1)) signed = .ok registry' := by
  obtain ⟨signed, hsigned, haccepted⟩ := signed_manifest_accepted_iff (α := ConfiguredAdapter)
    ArtifactService.Sample.faithfulSignatures_sealedRuntime rfl signs_manifest (bankManifest (seconds 1))
  have hsecond : fromTimestamp (epochSeconds 1500000) = .ok (seconds 1) := by decide +kernel
  have hfree : ∀ existing, (Dict.empty : InstitutionAdapterRegistry ConfiguredAdapter).get?
      (refOf (bankAdapter (seconds 1))) = some existing →
        existing.2.signature.signature = signed.signature.signature := by
    intro existing h
    rw [Dict.get?_empty] at h
    cases h
  obtain ⟨registry', hregistry⟩ := ((haccepted [] live_manifestKeys).2 .empty (bankAdapter (seconds 1)) rfl
    rfl hfree).mpr ⟨by decide, seconds 1, hsecond, by decide, by decide⟩
  exact ⟨signed, registry', hsigned, hregistry⟩

/-- A manifest that is issued in the middle of a second and signed at the same instant is refused. -/
theorem manifest_refused_at_issue : ∃ signed,
    CapabilityManifestSigner.sign sealedRuntime manifestKeys "EXEC" (bankManifest 1500000) 1500000 =
      .ok signed ∧
    CapabilityManifestSigner.verify sealedRuntime manifestKeys signed ≠ .ok () := by
  obtain ⟨signed, hsigned⟩ := CapabilityManifestSigner.exists_sign sealedRuntime
    (bankManifest 1500000) signs_manifest
  refine ⟨signed, hsigned, fun hverify => ?_⟩
  obtain ⟨-, second, hsecond, -, hissued, -⟩ := (CapabilityManifestSigner.verify_sign_iff
    ArtifactService.Sample.faithfulSignatures_sealedRuntime hsigned rfl live_manifestKeys).mp hverify
  have hwhole : fromTimestamp (epochSeconds 1500000) = .ok (seconds 1) := by decide +kernel
  obtain rfl := Except.ok.inj (hwhole.symm.trans hsecond)
  exact absurd hissued (by decide)

end Sample

end RailOne
