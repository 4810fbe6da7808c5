import RailOneCore.Contracts.Models
import RailOneCore.Library.Dict

/-!
# The partner directory

`InMemoryPartnerDirectory` keeps the partner institutions and the account bindings.  Both are checked
by `normalized` when they are added, and stored as they were passed in: nothing is trimmed.
-/

namespace RailOne

open Ordered

/-! ## Institutions and bindings -/

inductive InstitutionStatus
  | active | paused | offboarded
  deriving DecidableEq, Repr

inductive AccountBindingStatus
  | active | revoked | suspended
  deriving DecidableEq, Repr

/-- `_text`, for a value that is not used. -/
def requireLegible (name value : String) : Except Exn Unit :=
  require (strip value ≠ "") ⟨.valueError, name ++ " is required"⟩

/-- An institution that takes part. -/
structure PartnerInstitution where
  institutionId : String
  displayName : String
  countryCodes : List String
  currencies : List String
  supportedRoles : List AccountRole
  status : InstitutionStatus
  deriving DecidableEq, Repr

/-- `PartnerInstitution.normalized`. -/
def PartnerInstitution.normalized (i : PartnerInstitution) : Except Exn PartnerInstitution := do
  requireLegible "institution_id" i.institutionId
  requireLegible "display_name" i.displayName
  require (i.countryCodes ≠ [] ∧ i.currencies ≠ [] ∧ i.supportedRoles ≠ [])
    ⟨.valueError, "partner institution coverage cannot be empty"⟩
  require i.countryCodes.Nodup ⟨.valueError, "partner country coverage contains duplicates"⟩
  require i.currencies.Nodup ⟨.valueError, "partner currency coverage contains duplicates"⟩
  return i

/-- An account of an actor at an institution. -/
structure AccountBinding where
  accountBindingId : String
  actorId : String
  institutionId : String
  role : AccountRole
  accountType : AccountType
  currency : String
  displayHint : String
  contactBindingId : String
  attestationReference : String
  status : AccountBindingStatus
  deriving DecidableEq, Repr

namespace AccountBinding

/-- The texts that a binding must have, with their names. -/
def texts (b : AccountBinding) : List (String × String) :=
  [("account_binding_id", b.accountBindingId), ("actor_id", b.actorId),
    ("institution_id", b.institutionId), ("currency", b.currency), ("display_hint", b.displayHint),
    ("contact_binding_id", b.contactBindingId), ("attestation_reference", b.attestationReference)]

/-- `AccountBinding.normalized`. -/
def normalized (b : AccountBinding) : Except Exn AccountBinding := do
  b.texts.forM fun (name, value) => requireLegible name value
  require (b.displayHint.length ≤ 32) ⟨.valueError, "account display hint exceeds 32 characters"⟩
  return b

/-- A binding passes only with a short hint. -/
theorem length_displayHint_of_normalized {b b' : AccountBinding} (h : b.normalized = .ok b') :
    b.displayHint.length ≤ 32 := by
  simp only [normalized, bind_eq_ok, require_eq_ok] at h
  obtain ⟨-, -, -, hlength, -⟩ := h
  exact hlength

/-- The status does not matter to the checks. -/
theorem normalized_withStatus {b b' : AccountBinding} (h : b.normalized = .ok b')
    (status : AccountBindingStatus) : ∃ b'', ({ b with status } : AccountBinding).normalized = .ok b'' := by
  simp only [normalized, bind_eq_ok, require_eq_ok, pure_eq_ok] at h ⊢
  obtain ⟨u, hu, v, hlength, -⟩ := h
  exact ⟨_, u, hu, v, hlength, rfl⟩

/-- The endpoint of a binding. -/
def endpoint (b : AccountBinding) (institutionDisplayName : String) : AccountEndpoint where
  institutionId := b.institutionId
  institutionDisplayName := institutionDisplayName
  accountBindingId := b.accountBindingId
  role := b.role
  accountType := b.accountType
  displayHint := b.displayHint
  contactBindingId := b.contactBindingId
  attestationReference := b.attestationReference

end AccountBinding

/-! ## The directory -/

/-- `InMemoryPartnerDirectory`: the bindings are stored under their identifiers, have passed the
checks, and belong to institutions of the directory. -/
structure InMemoryPartnerDirectory where
  institutions : Dict String PartnerInstitution
  bindings : Dict String AccountBinding
  keyed : ∀ id b, bindings.get? id = some b → b.accountBindingId = id
  checked : ∀ id b, bindings.get? id = some b → ∃ b', b.normalized = .ok b'
  housed : ∀ id b, bindings.get? id = some b → ∃ i, institutions.get? b.institutionId = some i

namespace InMemoryPartnerDirectory

/-- The directory without entries. -/
def empty : InMemoryPartnerDirectory where
  institutions := .empty
  bindings := .empty
  keyed := nofun
  checked := nofun
  housed := nofun

variable (dir : InMemoryPartnerDirectory)

/-- `add_institution`. -/
def addInstitution (institution : PartnerInstitution) : Except Exn InMemoryPartnerDirectory :=
  match institution.normalized with
  | .error exn => .error exn
  | .ok _ =>
    if (dir.institutions.get? institution.institutionId).isSome then
      .error ⟨.valueError, "partner institution already exists"⟩
    else .ok
      { dir with
        institutions := dir.institutions.set institution.institutionId institution
        housed := by
          intro id b hb
          obtain ⟨i, hi⟩ := dir.housed id b hb
          rw [Dict.get?_set]
          split_ifs
          · exact ⟨_, rfl⟩
          · exact ⟨i, hi⟩ }

/-- `self._bindings[id] = binding`. -/
def withBinding (id : String) (binding : AccountBinding) (hid : binding.accountBindingId = id)
    (hchecked : ∃ b, binding.normalized = .ok b)
    (hhoused : ∃ i, dir.institutions.get? binding.institutionId = some i) :
    InMemoryPartnerDirectory where
  institutions := dir.institutions
  bindings := dir.bindings.set id binding
  keyed := by
    intro id' b hb
    rw [Dict.get?_set] at hb
    split_ifs at hb with heq
    · cases hb
      exact hid.trans heq.symm
    · exact dir.keyed id' b hb
  checked := by
    intro id b hb
    rw [Dict.get?_set] at hb
    split_ifs at hb
    · cases hb
      exact hchecked
    · exact dir.checked id b hb
  housed := by
    intro id b hb
    rw [Dict.get?_set] at hb
    split_ifs at hb
    · cases hb
      exact hhoused
    · exact dir.housed id b hb

/-- `add_binding`. -/
def addBinding (binding : AccountBinding) : Except Exn InMemoryPartnerDirectory :=
  match hchecked : binding.normalized with
  | .error exn => .error exn
  | .ok _ =>
    match hhoused : dir.institutions.get? binding.institutionId with
    | none => .error ⟨.lookupError, "account binding institution is not a partner"⟩
    | some _ =>
      if (dir.bindings.get? binding.accountBindingId).isSome then
        .error ⟨.valueError, "account binding already exists"⟩
      else .ok (dir.withBinding binding.accountBindingId binding rfl ⟨_, hchecked⟩ ⟨_, hhoused⟩)

/-- `set_binding_status`. -/
def setBindingStatus (accountBindingId : String) (status : AccountBindingStatus) :
    Except Exn InMemoryPartnerDirectory :=
  match hbinding : dir.bindings.get? accountBindingId with
  | none => .error ⟨.lookupError, "account binding not found"⟩
  | some binding =>
    .ok (dir.withBinding accountBindingId { binding with status }
      (dir.keyed _ binding hbinding)
      (AccountBinding.normalized_withStatus (dir.checked _ binding hbinding).choose_spec status)
      (dir.housed _ binding hbinding))

/-- `select_endpoint`.  The actor is compared as the caller passes it. -/
def selectEndpoint (actorId : Json) (accountBindingId : String) (requiredRole : AccountRole) :
    Except Exn AccountEndpoint :=
  match dir.bindings.get? accountBindingId with
  | none => .error ⟨.lookupError, "account binding not found"⟩
  | some binding =>
    match dir.institutions.get? binding.institutionId with
    | none => .error ⟨.keyError, binding.institutionId⟩
    | some institution => do
      require (.str binding.actorId = actorId)
        ⟨.permissionError, "account binding belongs to another actor"⟩
      require (binding.status = .active) ⟨.permissionError, "account binding is not active"⟩
      require (institution.status = .active)
        ⟨.permissionError, "partner institution is not active"⟩
      require (binding.role = requiredRole)
        ⟨.permissionError, "account binding has the wrong execution role"⟩
      return binding.endpoint institution.displayName

/-- `_same_binding_material`: the display name of the institution is not compared. -/
def sameBindingMaterial (left right : AccountEndpoint) : Bool :=
  decide (left.institutionId = right.institutionId) &&
    decide (left.accountBindingId = right.accountBindingId) && decide (left.role = right.role) &&
    decide (left.accountType = right.accountType) &&
    decide (left.displayHint = right.displayHint) &&
    decide (left.contactBindingId = right.contactBindingId) &&
    decide (left.attestationReference = right.attestationReference)

/-- `validate_endpoint`. -/
def validateEndpoint (rt : Runtime) (actorId : Json) (endpoint : AccountEndpoint)
    (requiredRole : AccountRole) (currency : Json) : Except Exn Unit := do
  let selected ← dir.selectEndpoint actorId endpoint.accountBindingId requiredRole
  match dir.bindings.get? endpoint.accountBindingId with
  | none => .error ⟨.keyError, endpoint.accountBindingId⟩
  | some binding => do
    require (sameBindingMaterial selected endpoint)
      ⟨.permissionError, "account endpoint snapshot does not match its binding"⟩
    let currency ← currency.asStr
    require (rt.upper binding.currency = rt.upper currency)
      ⟨.permissionError, "account binding currency is not eligible"⟩

/-! ## What passes -/

/-- The directory has this binding for the endpoint, active at an active institution, and the binding
is the actor's, for the role and the currency. -/
structure Backs (rt : Runtime) (actorId : String) (endpoint : AccountEndpoint) (role : AccountRole)
    (currency : String) (b : AccountBinding) : Prop where
  stored : dir.bindings.get? endpoint.accountBindingId = some b
  institution : ∃ i, dir.institutions.get? b.institutionId = some i ∧ i.status = .active
  active : b.status = .active
  actorId : b.actorId = actorId
  required : b.role = role
  institutionId : b.institutionId = endpoint.institutionId
  role : b.role = endpoint.role
  accountType : b.accountType = endpoint.accountType
  displayHint : b.displayHint = endpoint.displayHint
  contactBindingId : b.contactBindingId = endpoint.contactBindingId
  attestationReference : b.attestationReference = endpoint.attestationReference
  currency : rt.upper b.currency = rt.upper currency

/-- A selected endpoint is the one of an active binding of the actor. -/
theorem selectEndpoint_eq_ok {dir : InMemoryPartnerDirectory} {actorId : Json} {id : String}
    {role : AccountRole} {e : AccountEndpoint} :
    dir.selectEndpoint actorId id role = .ok e ↔ ∃ b i, dir.bindings.get? id = some b ∧
      dir.institutions.get? b.institutionId = some i ∧ .str b.actorId = actorId ∧
      b.status = .active ∧ i.status = .active ∧ b.role = role ∧ e = b.endpoint i.displayName := by
  unfold selectEndpoint
  constructor
  · intro h
    split at h
    · cases h
    · next b hb =>
      split at h
      · cases h
      · next i hi =>
        simp only [bind_eq_ok, require_eq_ok, pure_eq_ok] at h
        obtain ⟨-, hactor, -, hactive, -, hinstitution, -, hrole, rfl⟩ := h
        exact ⟨b, i, hb, hi, hactor, hactive, hinstitution, hrole, rfl⟩
  · rintro ⟨b, i, hb, hi, hactor, hactive, hinstitution, hrole, rfl⟩
    rw [hb]
    dsimp only
    rw [hi]
    simp only [bind_eq_ok, require_eq_ok, pure_eq_ok]
    exact ⟨⟨⟩, hactor, ⟨⟩, hactive, ⟨⟩, hinstitution, ⟨⟩, hrole, trivial⟩

theorem sameBindingMaterial_iff {left right : AccountEndpoint} :
    sameBindingMaterial left right = true ↔ left.institutionId = right.institutionId ∧
      left.accountBindingId = right.accountBindingId ∧ left.role = right.role ∧
      left.accountType = right.accountType ∧ left.displayHint = right.displayHint ∧
      left.contactBindingId = right.contactBindingId ∧
      left.attestationReference = right.attestationReference := by
  simp only [sameBindingMaterial, Bool.and_eq_true, decide_eq_true_eq, and_assoc]

/-- An endpoint passes if and only if a binding of the directory backs it. -/
theorem validateEndpoint_eq_ok {dir : InMemoryPartnerDirectory} {rt : Runtime} {actorId : String}
    {e : AccountEndpoint} {role : AccountRole} {currency : String} {u : Unit} :
    dir.validateEndpoint rt (.str actorId) e role (.str currency) = .ok u ↔
      ∃ b, dir.Backs rt actorId e role currency b := by
  simp only [validateEndpoint, bind_eq_ok, selectEndpoint_eq_ok]
  constructor
  · rintro ⟨-, ⟨b, i, hb, hi, hactor, hactive, hinstitution, hrole, rfl⟩, h⟩
    rw [hb] at h
    simp only [bind_eq_ok, require_eq_ok, sameBindingMaterial_iff, Json.asStr_eq_ok,
      Json.str.injEq] at h
    obtain ⟨-, ⟨hid, -, hrole', htype, hhint, hcontact, hattestation⟩, _, rfl, hcurrency⟩ := h
    exact ⟨b, hb, ⟨i, hi, hinstitution⟩, hactive, Json.str.inj hactor, hrole, hid, hrole', htype,
      hhint, hcontact, hattestation, hcurrency⟩
  · rintro ⟨b, hbacks⟩
    obtain ⟨i, hi, hinstitution⟩ := hbacks.institution
    refine ⟨_, ⟨b, i, hbacks.stored, hi, congrArg Json.str hbacks.actorId, hbacks.active, hinstitution,
      hbacks.required, rfl⟩, ?_⟩
    rw [hbacks.stored]
    simp only [bind_eq_ok, require_eq_ok, sameBindingMaterial_iff, Json.asStr_eq_ok, Json.str.injEq]
    have hid : b.accountBindingId = e.accountBindingId := dir.keyed _ _ hbacks.stored
    exact ⟨⟨⟩, ⟨hbacks.institutionId, hid, hbacks.role, hbacks.accountType, hbacks.displayHint,
      hbacks.contactBindingId, hbacks.attestationReference⟩, currency, rfl, hbacks.currency⟩

end InMemoryPartnerDirectory

end RailOne
