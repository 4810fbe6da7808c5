import RailOneCore.Institutions.Registry

/-!
# Adapters that are found can be used

A registry is built by registrations of adapters with distinct binding references.  What it finds for a
route does not depend on the order of the registrations; whatever it finds can be resolved at the same
instant, and accepts the instruction of the route.  The registry looks at the signed manifest and the
adapter at its own: both write the same payload, so they hold the same codes and amounts.
-/

namespace RailOne

open Ordered InstitutionAdapterRegistry

/-- A call of `register`, and the keys that the verifier finds then. -/
structure Registration (α : Type) where
  keys : KeyProvider
  adapter : α
  signed : SignedManifest

namespace Registration

variable {α : Type} [InstitutionAdapter α] (rt : Runtime)

/-- The binding reference of the registration. -/
def ref (r : Registration α) : String := refOf r.adapter

/-- The entry that the registration writes. -/
def entry (r : Registration α) : String × (α × SignedManifest) := (r.ref, r.adapter, r.signed)

/-- The registry after some registrations, unless one of them is refused. -/
def registerAll (registry : InstitutionAdapterRegistry α) :
    List (Registration α) → Except Exn (InstitutionAdapterRegistry α)
  | [] => .ok registry
  | r :: rs => do
    let registry ← register rt r.keys registry r.adapter r.signed
    registerAll registry rs

variable {rt} {registry registry' : InstitutionAdapterRegistry α} {rs rs' : List (Registration α)}
  {query : AdapterEligibilityQuery} {at_ : Instant}

/-- Registrations under new binding references are accepted if each one passes its checks, and leave
one entry each, in their order. -/
theorem registerAll_eq_ok (hdistinct : (registry.entries.map Prod.fst ++ rs.map ref).Nodup) :
    registerAll rt registry rs = .ok registry' ↔
      (∀ r ∈ rs, Admitted rt r.keys r.adapter r.signed) ∧
        registry'.entries = registry.entries ++ rs.map entry := by
  induction rs generalizing registry with
  | nil =>
    rw [registerAll, Except.ok.injEq, List.map_nil, List.append_nil]
    constructor
    · rintro rfl
      exact ⟨fun r hr => absurd hr List.not_mem_nil, rfl⟩
    · rintro ⟨-, hentries⟩
      exact (Dict.ext hentries).symm
  | cons r rs ih =>
    have hfresh : r.ref ∉ registry.entries.map Prod.fst := by
      intro hmem
      exact (List.nodup_append.mp hdistinct).2.2 _ hmem _ List.mem_cons_self rfl
    have hentries : (registry.set r.ref (r.adapter, r.signed)).entries = registry.entries ++ [r.entry] :=
      Dict.entries_set_of_not_mem hfresh
    have hnone : registry.get? (refOf r.adapter) = none := by
      by_contra hsome
      obtain ⟨existing, hexisting⟩ := Option.ne_none_iff_exists'.mp hsome
      obtain ⟨l₁, l₂, hsplit⟩ := Dict.entries_of_get? hexisting
      refine hfresh (List.mem_map.mpr ⟨(refOf r.adapter, existing), ?_, rfl⟩)
      rw [hsplit]
      exact List.mem_append_right _ List.mem_cons_self
    have hrest : ((registry.set r.ref (r.adapter, r.signed)).entries.map Prod.fst ++ rs.map ref).Nodup := by
      rw [hentries, List.map_append, List.append_assoc]
      exact hdistinct
    rw [registerAll, bind_eq_ok]
    constructor
    · rintro ⟨registry₁, hregister, hrs⟩
      obtain ⟨hadmitted, -, rfl⟩ := register_eq_ok.mp hregister
      obtain ⟨hall, hlast⟩ := (ih hrest).mp hrs
      refine ⟨List.forall_mem_cons.mpr ⟨hadmitted, hall⟩, hlast.trans ?_⟩
      rw [hentries, List.append_assoc]
      rfl
    · rintro ⟨hall, hlast⟩
      obtain ⟨hadmitted, hall⟩ := List.forall_mem_cons.mp hall
      refine ⟨_, register_eq_ok.mpr ⟨hadmitted, by simp [hnone], rfl⟩, (ih hrest).mpr ⟨hall, ?_⟩⟩
      rw [hlast, hentries, List.append_assoc]
      rfl

theorem registerAll_empty_eq_ok (hdistinct : (rs.map ref).Nodup) :
    registerAll rt .empty rs = .ok registry ↔
      (∀ r ∈ rs, Admitted rt r.keys r.adapter r.signed) ∧ registry.entries = rs.map entry := by
  have hempty : ((Dict.empty : InstitutionAdapterRegistry α).entries.map Prod.fst ++ rs.map ref).Nodup :=
    hdistinct
  rw [registerAll_eq_ok hempty]
  rfl

/-! ## What is found -/

theorem eligible_eq (hentries : registry.entries = rs.map entry) : eligible rt registry query at_ =
    ((rs.filter fun r => Eligible rt query at_ r.signed).map adapter).insertionSort sortsBefore := by
  have hvalues : registry.values = rs.map fun r => (r.adapter, r.signed) := by
    rw [Dict.values, hentries, List.map_map]
    rfl
  rw [eligible, hvalues, List.filter_map, List.map_map]
  rfl

theorem mem_eligible (hentries : registry.entries = rs.map entry) (a : α) :
    a ∈ eligible rt registry query at_ ↔ ∃ r ∈ rs, r.adapter = a ∧ Eligible rt query at_ r.signed := by
  rw [eligible_eq hentries, List.mem_insertionSort, List.mem_map]
  constructor
  · rintro ⟨r, hr, rfl⟩
    obtain ⟨hmem, heligible⟩ := List.mem_filter.mp hr
    exact ⟨r, hmem, rfl, of_decide_eq_true heligible⟩
  · rintro ⟨r, hmem, rfl, heligible⟩
    exact ⟨r, List.mem_filter.mpr ⟨hmem, decide_eq_true heligible⟩, rfl⟩

/-- With distinct binding references the keys of what is found ascend. -/
theorem pairwise_eligible (hentries : registry.entries = rs.map entry) (hdistinct : (rs.map ref).Nodup) :
    (eligible rt registry query at_).Pairwise fun a b => keyOf a < keyOf b := by
  rw [eligible_eq hentries]
  have hrefs : (((rs.filter fun r => Eligible rt query at_ r.signed).map adapter).map refOf).Nodup := by
    rw [List.map_map]
    exact (List.filter_sublist.map ref).nodup hdistinct
  have hsorted := List.pairwise_insertionSort sortsBefore
    ((rs.filter fun r => Eligible rt query at_ r.signed).map adapter)
  have hne : (((rs.filter fun r => Eligible rt query at_ r.signed).map adapter).insertionSort
      sortsBefore).Pairwise fun a b => refOf a ≠ refOf b :=
    List.pairwise_map.mp (((List.perm_insertionSort sortsBefore _).map refOf).nodup_iff.mpr hrefs)
  refine hsorted.imp₂ (fun a b hle hne => lt_of_le_of_ne hle fun heq => hne ?_) hne
  exact congrArg (fun key => (ofLex key).2) heq

/-- The order of the registrations does not matter. -/
theorem eligible_of_perm (hentries : registry.entries = rs.map entry)
    (hentries' : registry'.entries = rs'.map entry) (hdistinct : (rs.map ref).Nodup)
    (hperm : rs'.Perm rs) : eligible rt registry' query at_ = eligible rt registry query at_ := by
  have hdistinct' : (rs'.map ref).Nodup := (hperm.map ref).nodup_iff.mpr hdistinct
  refine List.Perm.eq_of_pairwise (fun a b _ _ hab hba => absurd hab (lt_asymm hba))
    (pairwise_eligible hentries' hdistinct') (pairwise_eligible hentries hdistinct) ?_
  rw [eligible_eq hentries, eligible_eq hentries']
  exact (List.perm_insertionSort _ _).trans
    (((hperm.filter _).map adapter).trans (List.perm_insertionSort _ _).symm)

theorem resolve_of_eligible (hentries : registry.entries = rs.map entry) {r : Registration α} (hr : r ∈ rs)
    (heligible : Eligible rt query at_ r.signed) :
    resolve registry (refOf r.adapter) at_ = .ok r.adapter := by
  have hget : registry.get? (refOf r.adapter) = some (r.adapter, r.signed) :=
    Dict.get?_of_mem (hentries ▸ List.mem_map.mpr ⟨r, hr, rfl⟩)
  simp only [resolve, hget, bind_eq_ok, require_eq_ok, pure_eq_ok]
  exact ⟨(), heligible.1, (), heligible.2.1, trivial⟩

end Registration

namespace CapabilityManifest

theorem texts_injective : Function.Injective texts := fun _ _ h =>
  List.map_injective_iff.mpr (fun _ _ hstr => Json.str.inj hstr) (Json.arr.inj h)

/-- Manifests that write the same hold the same codes and amounts. -/
theorem eq_of_toPayload {m m' : CapabilityManifest} (h : m.toPayload = m'.toPayload) :
    m.sourceInstitutionIds = m'.sourceInstitutionIds ∧
      m.destinationInstitutionIds = m'.destinationInstitutionIds ∧ m.rails = m'.rails ∧
      m.currenciesFrom = m'.currenciesFrom ∧ m.currenciesTo = m'.currenciesTo ∧
      m.minAmountMinor = m'.minAmountMinor ∧ m.maxAmountMinor = m'.maxAmountMinor := by
  simp only [toPayload, List.cons.injEq, Prod.mk.injEq, true_and, and_true] at h
  obtain ⟨-, -, -, hsource, hdestination, -, -, hrails, hfrom, hto, -, -, -, -, -, -, hmin, hmax, -⟩ := h
  exact ⟨texts_injective hsource, texts_injective hdestination, texts_injective hrails,
    texts_injective hfrom, texts_injective hto, Json.int.inj hmin, Json.int.inj hmax⟩

end CapabilityManifest

namespace ConfiguredAdapter

variable (rt : Runtime) (adapter : ConfiguredAdapter)

/-- The instruction is for the route and for the provider of the adapter, in any letter case. -/
structure Fits (query : AdapterEligibilityQuery) (i : InstitutionExecutionInstruction) : Prop where
  provider : rt.upper i.providerId = rt.upper adapter.manifest.descriptor.providerId
  source : rt.upper i.sourceInstitutionId = rt.upper query.sourceInstitutionId
  destination : rt.upper i.destinationInstitutionId = rt.upper query.destinationInstitutionId
  rail : rt.upper i.rail = rt.upper query.rail
  currencyFrom : rt.upper i.currencyFrom = rt.upper query.currencyFrom
  currencyTo : rt.upper i.currencyTo = rt.upper query.currencyTo
  amount : i.amountMinor = query.amountMinor

variable {rt adapter}

/-- An adapter accepts the instructions of a route that a manifest covers which writes what its own
manifest writes. -/
theorem validateInstruction_of_covered {m : CapabilityManifest} {query : AdapterEligibilityQuery}
    {i : InstitutionExecutionInstruction} (hpayload : adapter.manifest.toPayload = m.toPayload)
    (hcovered : query.Covered rt m) (hfits : Fits rt adapter query i) :
    adapter.generic.validateInstruction rt i = .ok () := by
  obtain ⟨hsource, hdestination, -, -, hrail, hfrom, hto, hmin, hmax⟩ := hcovered
  obtain ⟨hsources, hdestinations, hrails, hfroms, htos, hmins, hmaxs⟩ :=
    CapabilityManifest.eq_of_toPayload hpayload
  simp only [GenericHttpInstitutionAdapter.validateInstruction, bind_eq_ok, require_eq_ok,
    adapter.generic.descriptor_eq, adapter.view_eq, CapabilityManifest.view]
  refine ⟨(), hfits.provider, (), ?_, (), ?_, (), ?_, (), ?_, (), ?_, ?_⟩
  · rw [hfits.source, hsources]
    exact hsource
  · rw [hfits.destination, hdestinations]
    exact hdestination
  · rw [hfits.rail, hrails]
    exact hrail
  · rw [hfits.currencyFrom, hfroms]
    exact hfrom
  · rw [hfits.currencyTo, htos]
    exact hto
  · rw [hfits.amount, hmins, hmaxs]
    exact ⟨hmin, hmax⟩

end ConfiguredAdapter

/-- What is promised about the adapters that are found for a route at an instant. -/
structure Discovered (rt : Runtime) (rs : List (Registration ConfiguredAdapter))
    (registry : InstitutionAdapterRegistry ConfiguredAdapter) (query : AdapterEligibilityQuery)
    (at_ : Instant) : Prop where
  found : ∀ a, a ∈ eligible rt registry query at_ ↔ ∃ r ∈ rs, r.adapter = a ∧
    r.signed.manifest.isActiveAt at_ = true ∧
    r.signed.manifest.descriptor.certificationStatus ≠ .draft ∧ query.Covered rt r.signed.manifest
  sorted : (eligible rt registry query at_).Pairwise fun a b => keyOf a < keyOf b
  anyOrder : ∀ rs', rs'.Perm rs → ∃ registry', Registration.registerAll rt .empty rs' = .ok registry' ∧
    eligible rt registry' query at_ = eligible rt registry query at_
  resolved : ∀ a ∈ eligible rt registry query at_, resolve registry (refOf a) at_ = .ok a
  accepted : ∀ a ∈ eligible rt registry query at_, ∀ i, a.Fits rt query i →
    a.generic.validateInstruction rt i = .ok ()

/-- Adapters with distinct binding references are registered: exactly those are found for a route whose
manifest is active, is no draft and covers it, ordered by their keys, whatever the order of the
registrations; each can be resolved, and accepts the instructions of the route. -/
theorem discovered_of_registerAll {rt : Runtime} {rs : List (Registration ConfiguredAdapter)}
    {registry : InstitutionAdapterRegistry ConfiguredAdapter}
    (hdistinct : (rs.map Registration.ref).Nodup)
    (hrs : Registration.registerAll rt .empty rs = .ok registry) (query : AdapterEligibilityQuery)
    (at_ : Instant) : Discovered rt rs registry query at_ := by
  obtain ⟨hadmitted, hentries⟩ := (Registration.registerAll_empty_eq_ok hdistinct).mp hrs
  refine ⟨Registration.mem_eligible hentries, Registration.pairwise_eligible hentries hdistinct, ?_, ?_, ?_⟩
  · intro rs' hperm
    obtain ⟨registry', hentries'⟩ : ∃ registry' : InstitutionAdapterRegistry ConfiguredAdapter,
        registry'.entries = rs'.map Registration.entry := by
      have hkeys : (rs'.map Registration.entry).map Prod.fst = rs'.map Registration.ref := List.map_map
      exact ⟨⟨rs'.map Registration.entry, hkeys ▸ (hperm.map _).nodup_iff.mpr hdistinct⟩, rfl⟩
    refine ⟨registry', (Registration.registerAll_empty_eq_ok ((hperm.map _).nodup_iff.mpr hdistinct)).mpr
      ⟨fun r hr => hadmitted r (hperm.mem_iff.mp hr), hentries'⟩, ?_⟩
    exact Registration.eligible_of_perm hentries hentries' hdistinct hperm
  · intro a ha
    obtain ⟨r, hr, rfl, heligible⟩ := (Registration.mem_eligible hentries a).mp ha
    exact Registration.resolve_of_eligible hentries hr heligible
  · intro a ha i hfits
    obtain ⟨r, hr, rfl, heligible⟩ := (Registration.mem_eligible hentries a).mp ha
    exact ConfiguredAdapter.validateInstruction_of_covered (hadmitted r hr).samePayload heligible.2.2 hfits

namespace Sample

/-- A route that the bank covers. -/
def bankQuery : AdapterEligibilityQuery := ⟨"BANK-A", "BANK-B", "KE", "KE", "MOBILE", "KES", "KES", 500⟩

/-- The adapter of the bank is registered, found and resolved. -/
theorem discovered_of_registerAll_bank : ∃ (r : Registration ConfiguredAdapter)
    (registry : InstitutionAdapterRegistry ConfiguredAdapter), r.adapter = bankAdapter (seconds 1) ∧
      Discovered sealedRuntime [r] registry bankQuery (seconds 2) ∧
      resolve registry "BANK@1.0.0" (seconds 2) = .ok (bankAdapter (seconds 1)) := by
  obtain ⟨signed, hsigned⟩ := CapabilityManifestSigner.exists_sign sealedRuntime (bankManifest (seconds 1))
    signs_manifest
  have hsecond : fromTimestamp (epochSeconds 1500000) = .ok (seconds 1) := by decide +kernel
  have hverified : CapabilityManifestSigner.verify sealedRuntime
      (ArtifactService.run sealedRuntime (manifestKeyCalls ++ [])) signed = .ok () :=
    (CapabilityManifestSigner.verify_sign_iff ArtifactService.Sample.faithfulSignatures_sealedRuntime
      hsigned rfl live_manifestKeys).mpr ⟨by decide, seconds 1, hsecond, by decide, by decide⟩
  obtain ⟨hmanifest, -⟩ := CapabilityManifestSigner.sign_eq_ok hsigned
  have hadmitted : Admitted sealedRuntime manifestKeys (bankAdapter (seconds 1)) signed :=
    ⟨hverified, congrArg (fun m : CapabilityManifest => m.descriptor) hmanifest.symm,
      congrArg CapabilityManifest.toPayload hmanifest.symm⟩
  have hdistinct : ([⟨manifestKeys, bankAdapter (seconds 1), signed⟩].map Registration.ref).Nodup :=
    List.nodup_singleton _
  have hrs : Registration.registerAll sealedRuntime .empty
      [⟨manifestKeys, bankAdapter (seconds 1), signed⟩] =
        .ok (Dict.empty.set "BANK@1.0.0" (bankAdapter (seconds 1), signed)) := by
    refine (Registration.registerAll_empty_eq_ok hdistinct).mpr ⟨fun r hr => ?_, rfl⟩
    obtain rfl := List.mem_singleton.mp hr
    exact hadmitted
  have hdiscovered := discovered_of_registerAll hdistinct hrs bankQuery (seconds 2)
  have hcovered : (bankManifest (seconds 1)).isActiveAt (seconds 2) = true ∧
      (bankManifest (seconds 1)).descriptor.certificationStatus ≠ .draft ∧
      bankQuery.Covered sealedRuntime (bankManifest (seconds 1)) := by decide +kernel
  have hfound : bankAdapter (seconds 1) ∈ eligible sealedRuntime
      (Dict.empty.set "BANK@1.0.0" (bankAdapter (seconds 1), signed)) bankQuery (seconds 2) :=
    (hdiscovered.found _).mpr ⟨_, List.mem_singleton_self _, rfl, hmanifest ▸ hcovered⟩
  exact ⟨_, _, rfl, hdiscovered, hdiscovered.resolved _ hfound⟩

end Sample

end RailOne
