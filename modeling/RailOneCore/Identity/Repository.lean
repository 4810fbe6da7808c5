import RailOneCore.Identity.Attestation

/-!
# The identity repository

`InMemoryIdentityRepository` keeps the bundle of an identity under its fingerprint and under its continuity
UID, and its revisions in a list.  `Consistent` says how the three maps fit together, and `Evolves` what
may become of a stored identity: revisions are added behind the others, the anchor stays, and nothing is
added to a revoked identity.
-/

namespace RailOne

open Ordered

/-! ## Records -/

/-- `IdentityStatus`. -/
inductive IdentityStatus
  | active | reverificationRequired | suspended | revoked
  deriving DecidableEq, Repr

/-- `IdentityGenesis`. -/
structure IdentityGenesis where
  rigId : String
  continuityUid : String
  continuityKeyId : String
  identityFingerprint : String
  verificationProviderId : String
  verificationReference : String
  evidenceSha256 : String
  attestationId : String
  createdAt : Instant
  deriving DecidableEq, Repr

/-- `IdentityRevision`. -/
structure IdentityRevision where
  rivId : String
  rioId : String
  continuityUid : String
  revision : ℕ
  trustTier : TrustTier
  status : IdentityStatus
  reason : String
  attestationId : String
  createdAt : Instant
  deriving DecidableEq, Repr

/-- `IdentityObject`. -/
structure IdentityObject where
  rioId : String
  railoneId : String
  continuityUid : String
  rigId : String
  activeRivId : String
  corridor : String
  status : IdentityStatus
  createdAt : Instant
  deriving DecidableEq, Repr

/-- `IdentityBundle`. -/
structure IdentityBundle where
  genesis : IdentityGenesis
  identity : IdentityObject
  activeRevision : IdentityRevision
  deriving DecidableEq, Repr

/-- The fields of a bundle that no revision may change. -/
structure IdentityAnchor where
  genesis : IdentityGenesis
  rioId : String
  railoneId : String
  continuityUid : String
  rigId : String
  corridor : String
  createdAt : Instant
  deriving DecidableEq, Repr

/-- `stable_before` and `stable_after`. -/
def IdentityBundle.anchor (b : IdentityBundle) : IdentityAnchor where
  genesis := b.genesis
  rioId := b.identity.rioId
  railoneId := b.identity.railoneId
  continuityUid := b.identity.continuityUid
  rigId := b.identity.rigId
  corridor := b.identity.corridor
  createdAt := b.identity.createdAt

/-! ## The repository -/

/-- `InMemoryIdentityRepository`. -/
structure IdentityRepository where
  byFingerprint : Dict String IdentityBundle
  byContinuityUid : Dict String IdentityBundle
  revisions : Dict String (List IdentityRevision)

namespace IdentityRepository

/-- The repository without identities. -/
def empty : IdentityRepository := ⟨.empty, .empty, .empty⟩

variable (r : IdentityRepository)

/-- `save`. -/
def save (bundle : IdentityBundle) : Except Exn IdentityRepository :=
  if (r.byFingerprint.get? bundle.genesis.identityFingerprint).isSome then
    .error ⟨.valueError, "identity fingerprint already exists"⟩
  else if (r.byContinuityUid.get? bundle.identity.continuityUid).isSome then
    .error ⟨.valueError, "continuity UID already exists"⟩
  else .ok
    { byFingerprint := r.byFingerprint.set bundle.genesis.identityFingerprint bundle
      byContinuityUid := r.byContinuityUid.set bundle.identity.continuityUid bundle
      revisions := r.revisions.set bundle.identity.continuityUid [bundle.activeRevision] }

/-- `append_revision`. -/
def appendRevision (expectedRevision : ℕ) (bundle : IdentityBundle) : Except Exn IdentityRepository :=
  match r.byContinuityUid.get? bundle.identity.continuityUid with
  | none => .error ⟨.lookupError, "continuity identity not found: " ++ bundle.identity.continuityUid⟩
  | some current => do
    require (current.activeRevision.revision = expectedRevision)
      ⟨.runtimeError, "identity revision changed concurrently"⟩
    require (bundle.activeRevision.revision = expectedRevision + 1)
      ⟨.valueError, "identity revision must advance exactly once"⟩
    require (current.anchor = bundle.anchor)
      ⟨.valueError, "immutable identity anchor fields cannot change"⟩
    require (bundle.identity.activeRivId = bundle.activeRevision.rivId)
      ⟨.valueError, "identity projection must point to the active revision"⟩
    require (bundle.identity.status = bundle.activeRevision.status)
      ⟨.valueError, "identity projection status must match active revision"⟩
    require (bundle.activeRevision.rioId = bundle.identity.rioId ∧
        bundle.activeRevision.continuityUid = bundle.identity.continuityUid)
      ⟨.valueError, "identity revision lineage does not match projection"⟩
    match r.revisions.get? bundle.identity.continuityUid with
    | none => .error ⟨.keyError, bundle.identity.continuityUid⟩
    | some revisions =>
      require (∀ revision ∈ revisions, revision.attestationId ≠ bundle.activeRevision.attestationId)
        ⟨.valueError, "identity attestation was already used by a revision"⟩
      return {
        byFingerprint := r.byFingerprint.set current.genesis.identityFingerprint bundle
        byContinuityUid := r.byContinuityUid.set bundle.identity.continuityUid bundle
        revisions := r.revisions.set bundle.identity.continuityUid
          (revisions ++ [bundle.activeRevision]) }

variable {r} {r' : IdentityRepository} {bundle : IdentityBundle} {expectedRevision : ℕ}

theorem save_eq_ok (h : r.save bundle = .ok r') :
    r.byFingerprint.get? bundle.genesis.identityFingerprint = none ∧
      r.byContinuityUid.get? bundle.identity.continuityUid = none ∧
      r' = { byFingerprint := r.byFingerprint.set bundle.genesis.identityFingerprint bundle
             byContinuityUid := r.byContinuityUid.set bundle.identity.continuityUid bundle
             revisions := r.revisions.set bundle.identity.continuityUid [bundle.activeRevision] } := by
  unfold save at h
  split_ifs at h with hfingerprint huid
  cases h
  exact ⟨by simpa using hfingerprint, by simpa using huid, rfl⟩

/-- What an accepted revision has been checked for. -/
structure Accepts (r : IdentityRepository) (expectedRevision : ℕ) (bundle current : IdentityBundle)
    (revisions : List IdentityRevision) : Prop where
  stored : r.byContinuityUid.get? bundle.identity.continuityUid = some current
  expected : current.activeRevision.revision = expectedRevision
  next : bundle.activeRevision.revision = expectedRevision + 1
  anchor : current.anchor = bundle.anchor
  status : bundle.identity.status = bundle.activeRevision.status
  history : r.revisions.get? bundle.identity.continuityUid = some revisions
  attestation : ∀ revision ∈ revisions, revision.attestationId ≠ bundle.activeRevision.attestationId

theorem appendRevision_eq_ok (h : r.appendRevision expectedRevision bundle = .ok r') :
    ∃ current revisions, Accepts r expectedRevision bundle current revisions ∧
      r' = { byFingerprint := r.byFingerprint.set current.genesis.identityFingerprint bundle
             byContinuityUid := r.byContinuityUid.set bundle.identity.continuityUid bundle
             revisions := r.revisions.set bundle.identity.continuityUid
               (revisions ++ [bundle.activeRevision]) } := by
  unfold appendRevision at h
  split at h
  · cases h
  next current hcurrent =>
  simp only [bind_eq_ok, require_eq_ok, exists_const] at h
  obtain ⟨hexpected, hnext, hanchor, -, hstatus, -, h⟩ := h
  split at h
  · cases h
  next revisions hrevisions =>
  simp only [bind_eq_ok, require_eq_ok, exists_const, pure_eq_ok] at h
  obtain ⟨hattestation, rfl⟩ := h
  exact ⟨current, revisions,
    ⟨hcurrent, hexpected, hnext, hanchor, hstatus, hrevisions, hattestation⟩, rfl⟩

/-! ## Consistency -/

/-- The revisions of an identity: numbered from 1, with the active one last, and with no attestation
twice. -/
structure History (bundle : IdentityBundle) (revisions : List IdentityRevision) : Prop where
  numbered : ∀ i revision, revisions[i]? = some revision → revision.revision = i + 1
  last : revisions.getLast? = some bundle.activeRevision
  status : bundle.identity.status = bundle.activeRevision.status
  attestations : (revisions.map IdentityRevision.attestationId).Nodup

/-- The three maps fit together. -/
structure Consistent (r : IdentityRepository) : Prop where
  identity : ∀ uid bundle, r.byContinuityUid.get? uid = some bundle →
    bundle.identity.continuityUid = uid ∧
      r.byFingerprint.get? bundle.genesis.identityFingerprint = some bundle ∧
      ∃ revisions, r.revisions.get? uid = some revisions ∧ History bundle revisions
  fingerprint : ∀ fingerprint bundle, r.byFingerprint.get? fingerprint = some bundle →
    bundle.genesis.identityFingerprint = fingerprint ∧
      r.byContinuityUid.get? bundle.identity.continuityUid = some bundle
  revisions : ∀ uid revisions, r.revisions.get? uid = some revisions →
    ∃ bundle, r.byContinuityUid.get? uid = some bundle

theorem consistent_empty : empty.Consistent where
  identity _ _ h := by cases h
  fingerprint _ _ h := by cases h
  revisions _ _ h := by cases h

/-- The active revision has the number of revisions. -/
theorem History.length_eq {revisions : List IdentityRevision} (h : History bundle revisions) :
    bundle.activeRevision.revision = revisions.length := by
  have hlast := h.last
  rw [List.getLast?_eq_getElem?] at hlast
  have hnumber := h.numbered _ _ hlast
  have hlt := (List.getElem?_eq_some_iff.mp hlast).1
  omega

/-- The first revision of an identity. -/
theorem History.single (hrevision : bundle.activeRevision.revision = 1)
    (hstatus : bundle.identity.status = bundle.activeRevision.status) :
    History bundle [bundle.activeRevision] := by
  refine ⟨fun i revision hi => ?_, rfl, hstatus, List.nodup_singleton _⟩
  obtain ⟨hlt, rfl⟩ := List.getElem?_eq_some_iff.mp hi
  have hzero : i = 0 := by simpa using hlt
  subst hzero
  exact hrevision

/-- The next revision of an identity. -/
theorem History.next {current : IdentityBundle} {revisions : List IdentityRevision}
    (h : History current revisions)
    (hrevision : bundle.activeRevision.revision = current.activeRevision.revision + 1)
    (hstatus : bundle.identity.status = bundle.activeRevision.status)
    (hattestation : ∀ revision ∈ revisions,
      revision.attestationId ≠ bundle.activeRevision.attestationId) :
    History bundle (revisions ++ [bundle.activeRevision]) := by
  refine ⟨fun i revision hi => ?_, List.getLast?_concat, hstatus, ?_⟩
  · rcases lt_trichotomy i revisions.length with hlt | rfl | hgt
    · rw [List.getElem?_append_left hlt] at hi
      exact h.numbered i revision hi
    · rw [List.getElem?_append_right le_rfl, Nat.sub_self, List.getElem?_cons_zero,
        Option.some.injEq] at hi
      rw [← hi, hrevision, h.length_eq]
    · have hlt := (List.getElem?_eq_some_iff.mp hi).1
      rw [List.length_append, List.length_singleton] at hlt
      omega
  · rw [List.map_append, List.nodup_append]
    refine ⟨h.attestations, List.nodup_singleton _, fun a ha b hb => ?_⟩
    obtain ⟨revision, hrevision, rfl⟩ := List.mem_map.mp ha
    rw [List.map_singleton, List.mem_singleton] at hb
    exact hb ▸ hattestation revision hrevision

/-! ## What may become of an identity -/

/-- What may become of an identity and its revisions. -/
structure Evolves (bundle : IdentityBundle) (revisions : List IdentityRevision) (bundle' : IdentityBundle)
    (revisions' : List IdentityRevision) : Prop where
  anchor : bundle'.anchor = bundle.anchor
  history : revisions <+: revisions'
  same : revisions'.length = revisions.length → bundle' = bundle
  revoked : bundle.identity.status = .revoked → bundle' = bundle ∧ revisions' = revisions

theorem Evolves.refl (bundle : IdentityBundle) (revisions : List IdentityRevision) :
    Evolves bundle revisions bundle revisions :=
  ⟨rfl, List.prefix_rfl, fun _ => rfl, fun _ => ⟨rfl, rfl⟩⟩

theorem Evolves.trans {b₁ b₂ b₃ : IdentityBundle} {l₁ l₂ l₃ : List IdentityRevision}
    (h : Evolves b₁ l₁ b₂ l₂) (h' : Evolves b₂ l₂ b₃ l₃) : Evolves b₁ l₁ b₃ l₃ where
  anchor := h'.anchor.trans h.anchor
  history := h.history.trans h'.history
  same hlength := by
    have h₁ := h.history.length_le
    have h₂ := h'.history.length_le
    exact (h'.same (by omega)).trans (h.same (by omega))
  revoked hstatus := by
    obtain ⟨rfl, rfl⟩ := h.revoked hstatus
    exact h'.revoked hstatus

/-- What is stored stays, up to the revisions that are added. -/
def Grows (r r' : IdentityRepository) : Prop :=
  ∀ uid bundle revisions, r.byContinuityUid.get? uid = some bundle →
    r.revisions.get? uid = some revisions →
    ∃ bundle' revisions', r'.byContinuityUid.get? uid = some bundle' ∧
      r'.revisions.get? uid = some revisions' ∧ Evolves bundle revisions bundle' revisions'

theorem Grows.refl (r : IdentityRepository) : Grows r r :=
  fun _ bundle revisions hbundle hrevisions =>
    ⟨bundle, revisions, hbundle, hrevisions, .refl bundle revisions⟩

theorem Grows.trans {r₁ r₂ r₃ : IdentityRepository} (h : Grows r₁ r₂) (h' : Grows r₂ r₃) :
    Grows r₁ r₃ := by
  intro uid b₁ l₁ hb₁ hl₁
  obtain ⟨b₂, l₂, hb₂, hl₂, he₂⟩ := h uid b₁ l₁ hb₁ hl₁
  obtain ⟨b₃, l₃, hb₃, hl₃, he₃⟩ := h' uid b₂ l₂ hb₂ hl₂
  exact ⟨b₃, l₃, hb₃, hl₃, he₂.trans he₃⟩

/-- A revision of the identity with this fingerprint is backed by this attestation. -/
def Used (r : IdentityRepository) (fingerprint attestationId : String) : Prop :=
  ∃ bundle revisions, r.byFingerprint.get? fingerprint = some bundle ∧
    r.revisions.get? bundle.identity.continuityUid = some revisions ∧
    ∃ revision ∈ revisions, revision.attestationId = attestationId

/-- One revision has been added, the active one of this bundle, and nothing else has changed. -/
structure Adds (r : IdentityRepository) (bundle : IdentityBundle) (r' : IdentityRepository) : Prop where
  stored : r'.byContinuityUid.get? bundle.identity.continuityUid = some bundle
  history : r'.revisions.get? bundle.identity.continuityUid =
    some ((r.revisions.get? bundle.identity.continuityUid).getD [] ++ [bundle.activeRevision])
  others : ∀ uid, uid ≠ bundle.identity.continuityUid →
    r'.byContinuityUid.get? uid = r.byContinuityUid.get? uid ∧
      r'.revisions.get? uid = r.revisions.get? uid
  unused : ¬ Used r bundle.genesis.identityFingerprint bundle.activeRevision.attestationId
  used : Used r' bundle.genesis.identityFingerprint bundle.activeRevision.attestationId

/-- Attestations that have been used stay used. -/
theorem Grows.used {fingerprint attestationId : String} (h : Grows r r') (hr : r.Consistent)
    (hr' : r'.Consistent) (hused : Used r fingerprint attestationId) :
    Used r' fingerprint attestationId := by
  obtain ⟨b, l, hb, hl, revision, hmem, hid⟩ := hused
  obtain ⟨hfingerprint, huid⟩ := hr.fingerprint _ _ hb
  obtain ⟨b', l', hb', hl', hevolves⟩ := h _ b l huid hl
  obtain ⟨huid', hb'', -⟩ := hr'.identity _ _ hb'
  have hgenesis : b'.genesis = b.genesis := congrArg IdentityAnchor.genesis hevolves.anchor
  rw [hgenesis, hfingerprint] at hb''
  refine ⟨b', l', hb'', ?_, revision, hevolves.history.subset hmem, hid⟩
  rw [huid']
  exact hl'

/-- Saving the first bundle of an identity. -/
theorem save_spec (hr : r.Consistent) (h : r.save bundle = .ok r')
    (hrevision : bundle.activeRevision.revision = 1)
    (hstatus : bundle.identity.status = bundle.activeRevision.status) :
    r'.Consistent ∧ Grows r r' ∧ Adds r bundle r' := by
  obtain ⟨hfingerprint, huid, rfl⟩ := save_eq_ok h
  have hnone : r.revisions.get? bundle.identity.continuityUid = none := by
    by_contra hsome
    obtain ⟨l, hl⟩ := Option.ne_none_iff_exists'.mp hsome
    obtain ⟨b, hb⟩ := hr.revisions _ _ hl
    rw [huid] at hb
    cases hb
  -- other identities have another fingerprint and another continuity UID
  have hother : ∀ uid b, r.byContinuityUid.get? uid = some b →
      uid ≠ bundle.identity.continuityUid ∧
        b.genesis.identityFingerprint ≠ bundle.genesis.identityFingerprint := by
    intro uid b hb
    constructor
    · rintro rfl
      rw [huid] at hb
      cases hb
    · intro heq
      have hb' := (hr.identity _ _ hb).2.1
      rw [heq, hfingerprint] at hb'
      cases hb'
  refine ⟨⟨?_, ?_, ?_⟩, ?_, ⟨?_, ?_, ?_, ?_, ?_⟩⟩
  · intro uid b hb
    dsimp only at hb ⊢
    rw [Dict.get?_set] at hb
    split_ifs at hb with heq
    · cases hb
      refine ⟨heq.symm, Dict.get?_set_self _ _ _, [bundle.activeRevision], ?_,
        .single hrevision hstatus⟩
      rw [heq, Dict.get?_set_self]
    · obtain ⟨hb₁, hb₂, l, hl, hhistory⟩ := hr.identity uid b hb
      refine ⟨hb₁, ?_, l, ?_, hhistory⟩
      · rw [Dict.get?_set_of_ne _ _ (hother uid b hb).2, hb₂]
      · rw [Dict.get?_set_of_ne _ _ heq, hl]
  · intro fingerprint b hb
    dsimp only at hb ⊢
    rw [Dict.get?_set] at hb
    split_ifs at hb with heq
    · cases hb
      exact ⟨heq.symm, Dict.get?_set_self _ _ _⟩
    · obtain ⟨hb₁, hb₂⟩ := hr.fingerprint fingerprint b hb
      exact ⟨hb₁, by rw [Dict.get?_set_of_ne _ _ (hother _ b hb₂).1, hb₂]⟩
  · intro uid l hl
    dsimp only at hl ⊢
    rw [Dict.get?_set] at hl
    rw [Dict.get?_set]
    split_ifs at hl ⊢ with heq
    · exact ⟨bundle, rfl⟩
    · exact hr.revisions uid l hl
  · intro uid b l hb hl
    have hne := (hother uid b hb).1
    refine ⟨b, l, ?_, ?_, .refl b l⟩
    · rw [Dict.get?_set_of_ne _ _ hne, hb]
    · rw [Dict.get?_set_of_ne _ _ hne, hl]
  · exact Dict.get?_set_self _ _ _
  · dsimp only
    rw [Dict.get?_set_self, hnone]
    rfl
  · intro uid hne
    exact ⟨Dict.get?_set_of_ne _ _ hne, Dict.get?_set_of_ne _ _ hne⟩
  · rintro ⟨b, l, hb, -⟩
    rw [hfingerprint] at hb
    cases hb
  · exact ⟨bundle, [bundle.activeRevision], Dict.get?_set_self _ _ _, Dict.get?_set_self _ _ _,
      bundle.activeRevision, List.mem_singleton_self _, rfl⟩

/-- Appending a revision to an identity that is not revoked. -/
theorem appendRevision_spec (hr : r.Consistent)
    (h : r.appendRevision expectedRevision bundle = .ok r')
    (hactive : ∀ current, r.byContinuityUid.get? bundle.identity.continuityUid = some current →
      current.activeRevision.revision = expectedRevision → current.identity.status ≠ .revoked) :
    r'.Consistent ∧ Grows r r' ∧ Adds r bundle r' := by
  obtain ⟨current, revisions, haccepts, rfl⟩ := appendRevision_eq_ok h
  obtain ⟨-, hcurrent, l, hl, hhistory⟩ := hr.identity _ _ haccepts.stored
  obtain rfl : revisions = l := Option.some.inj (haccepts.history.symm.trans hl)
  have hgenesis : current.genesis = bundle.genesis := congrArg IdentityAnchor.genesis haccepts.anchor
  have hnext : History bundle (revisions ++ [bundle.activeRevision]) :=
    hhistory.next (by rw [haccepts.next, haccepts.expected]) haccepts.status haccepts.attestation
  have hother : ∀ uid b, uid ≠ bundle.identity.continuityUid → r.byContinuityUid.get? uid = some b →
      b.genesis.identityFingerprint ≠ current.genesis.identityFingerprint := by
    intro uid b hne hb heq
    obtain ⟨huid, hb', -⟩ := hr.identity _ _ hb
    rw [heq, hcurrent, Option.some.injEq] at hb'
    subst hb'
    exact hne (huid.symm.trans (congrArg IdentityAnchor.continuityUid haccepts.anchor))
  refine ⟨⟨?_, ?_, ?_⟩, ?_, ⟨?_, ?_, ?_, ?_, ?_⟩⟩
  · intro uid b hb
    dsimp only at hb ⊢
    rw [Dict.get?_set] at hb
    split_ifs at hb with heq
    · cases hb
      refine ⟨heq.symm, by rw [hgenesis, Dict.get?_set_self], _, ?_, hnext⟩
      rw [heq, Dict.get?_set_self]
    · obtain ⟨hb₁, hb₂, l', hl', hhistory'⟩ := hr.identity uid b hb
      refine ⟨hb₁, ?_, l', ?_, hhistory'⟩
      · rw [Dict.get?_set_of_ne _ _ (hother uid b heq hb), hb₂]
      · rw [Dict.get?_set_of_ne _ _ heq, hl']
  · intro fingerprint b hb
    dsimp only at hb ⊢
    rw [Dict.get?_set] at hb
    split_ifs at hb with heq
    · cases hb
      exact ⟨by rw [heq, hgenesis], Dict.get?_set_self _ _ _⟩
    · obtain ⟨hb₁, hb₂⟩ := hr.fingerprint fingerprint b hb
      have hne : b.identity.continuityUid ≠ bundle.identity.continuityUid := by
        intro hsame
        rw [hsame, haccepts.stored, Option.some.injEq] at hb₂
        exact heq (hb₁.symm.trans (by rw [hb₂]))
      exact ⟨hb₁, by rw [Dict.get?_set_of_ne _ _ hne, hb₂]⟩
  · intro uid l' hl'
    dsimp only at hl' ⊢
    rw [Dict.get?_set] at hl'
    rw [Dict.get?_set]
    split_ifs at hl' ⊢ with heq
    · exact ⟨bundle, rfl⟩
    · exact hr.revisions uid l' hl'
  · intro uid b l' hb hl'
    dsimp only
    rw [Dict.get?_set, Dict.get?_set]
    split_ifs with heq
    · subst heq
      obtain rfl : current = b := Option.some.inj (haccepts.stored.symm.trans hb)
      obtain rfl : revisions = l' := Option.some.inj (hl.symm.trans hl')
      refine ⟨bundle, _, rfl, rfl, haccepts.anchor.symm, List.prefix_append _ _, fun hlength => ?_,
        fun hrevoked => absurd hrevoked (hactive _ hb haccepts.expected)⟩
      rw [List.length_append, List.length_singleton] at hlength
      omega
    · exact ⟨b, l', hb, hl', .refl b l'⟩
  · exact Dict.get?_set_self _ _ _
  · dsimp only
    rw [Dict.get?_set_self, hl]
    rfl
  · intro uid hne
    exact ⟨Dict.get?_set_of_ne _ _ hne, Dict.get?_set_of_ne _ _ hne⟩
  · rintro ⟨b, l', hb, hl', revision, hmem, hid⟩
    rw [← hgenesis, hcurrent, Option.some.injEq] at hb
    subst hb
    have huid : current.identity.continuityUid = bundle.identity.continuityUid :=
      congrArg IdentityAnchor.continuityUid haccepts.anchor
    rw [huid, hl, Option.some.injEq] at hl'
    exact haccepts.attestation revision (hl' ▸ hmem) hid
  · refine ⟨bundle, revisions ++ [bundle.activeRevision], ?_, Dict.get?_set_self _ _ _,
      bundle.activeRevision, List.mem_append_right _ (List.mem_singleton_self _), rfl⟩
    rw [← hgenesis]
    exact Dict.get?_set_self _ _ _

end IdentityRepository

end RailOne
