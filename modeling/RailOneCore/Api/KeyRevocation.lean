import RailOneCore.Api.Auth
import RailOneCore.Crypto.Authenticity

/-!
# Revoked keys

After `revoke` a key can neither sign nor verify, for artifacts and for access tokens alike.  `retire`
does not look at the status of the key, though: a revoked key that is retired afterwards is a retired
key, and both verifiers accept what it has signed again.
-/

namespace RailOne

namespace AccessTokenService

variable {rt : Runtime} {loads : ByteArray → Except Exn Json} {s : AccessTokenService}
  {keys : KeyProvider} {revocations : TokenRevocations}

/-- The token names the key in its header. -/
def Names (rt : Runtime) (loads : ByteArray → Except Exn Json) (token keyId : String) : Prop :=
  ∃ parts, ∃ header : Fields, split rt loads token = .ok parts ∧ parts.header = .obj header ∧
    header.get "kid" = some (.str keyId)

theorem orRefused_eq_ok {α : Type} {catches : Exn → Bool} {code : String} {x : Except Exn α} {a : α} :
    orRefused catches code x = .ok a ↔ x = .ok a := by
  cases x with
  | ok b => rfl
  | error exn =>
    simp only [orRefused]
    split <;> simp

theorem tokenKey_eq_ok {header : Fields} {record : KeyRecord} (h : tokenKey keys header = .ok record) :
    ∃ keyId, header.get "kid" = some (.str keyId) ∧ keys.getKeyRecord keyId = some record ∧
      record.purpose = .accessTokenSigning ∧ record.status ≠ .revoked := by
  simp only [tokenKey, bind_eq_ok, require_eq_ok, pure_eq_ok] at h
  obtain ⟨_, -, _, -, record', hkey, _, hpurpose, _, hlive, rfl⟩ := h
  unfold headerKey at hkey
  split at hkey
  · next keyId hkid =>
    split at hkey
    · next found hfound =>
      cases hkey
      exact ⟨keyId, hkid, hfound, hpurpose, hlive⟩
    · cases hkey
  · cases hkey

/-- A token that is accepted names a key that is not revoked. -/
theorem status_of_verify {token keyId : String} {instant : Instant} {principal : AuthenticatedPrincipal}
    (h : verify rt loads s keys revocations token instant = .ok principal)
    (hnames : Names rt loads token keyId) :
    ∃ record, keys.getKeyRecord keyId = some record ∧ record.status ≠ .revoked := by
  obtain ⟨parts, header, hsplit, hheader, hkid⟩ := hnames
  simp only [verify, bind_eq_ok, require_eq_ok, orRefused_eq_ok] at h
  obtain ⟨_, -, _, -, parts', hsplit', ⟨header', claims⟩, hobjects, record, hkey, -⟩ := h
  obtain rfl := Except.ok.inj (hsplit.symm.trans hsplit')
  unfold objects at hobjects
  rw [hheader] at hobjects
  split at hobjects
  · next header'' claims' hobj hclaims =>
    cases hobj
    cases hobjects
    obtain ⟨keyId', hkid', hfound, -, hlive⟩ := tokenKey_eq_ok hkey
    rw [hkid, Option.some.injEq, Json.str.injEq] at hkid'
    subst hkid'
    exact ⟨record, hfound, hlive⟩
  · cases hobjects

end AccessTokenService

namespace ArtifactService

open RailOne.Sample (sealedRuntime)

variable {rt : Runtime}

/-- Nothing is signed with the key, and nothing it has signed is accepted. -/
structure Barred (rt : Runtime) (keys : KeyProvider) (keyId : String) : Prop where
  revoked : ∃ record, keys.getKeyRecord keyId = some record ∧ record.status = .revoked
  sign : ∀ message signature, keys.sign rt keyId message ≠ .ok signature
  artifacts : ∀ call e, call.keyId = keyId → signArtifact rt keys call ≠ .ok e
  tokens : ∀ (s : AccessTokenService) call token, call.keyId = keyId → s.issue rt keys call ≠ .ok token
  verifyArtifact : ∀ (e : PyEnvelope) expected result, text (e.header.get "kid") = some keyId →
    verifyArtifact rt keys e expected false = .ok result → result.valid = false
  verifyToken : ∀ (loads : ByteArray → Except Exn Json) (s : AccessTokenService) revocations token
    instant principal, AccessTokenService.Names rt loads token keyId →
    AccessTokenService.verify rt loads s keys revocations token instant ≠ .ok principal

/-- A revoked key without its private half is barred. -/
theorem barred_of_revoked {keys : KeyProvider} {keyId : String} {record : KeyRecord}
    (hrecord : keys.getKeyRecord keyId = some record) (hstatus : record.status = .revoked)
    (hprivate : keys.privateKeys.get? keyId = none) : Barred rt keys keyId where
  revoked := ⟨record, hrecord, hstatus⟩
  sign message signature h := by
    rw [KeyProvider.sign, hprivate] at h
    cases h
  artifacts call e hcall h := by
    obtain ⟨_, _, key, _, -, -, -, hkey, -⟩ := signArtifact_eq_ok h
    rw [hcall, hprivate] at hkey
    cases hkey
  tokens s call token hcall h := by
    simp only [AccessTokenService.issue, bind_eq_ok, require_eq_ok, KeyProvider.sign, hcall,
      hprivate] at h
    obtain ⟨_, -, _, -, _, -, _, -, _, -, _, -, _, -, _, -, _, -, _, h, -⟩ := h
    cases h
  verifyArtifact e expected result hkid h := by
    by_contra hvalid
    rw [Bool.not_eq_false] at hvalid
    obtain ⟨keyId', artifactType, record', hpasses⟩ := passes_of_verifyArtifact h hvalid
    have hid : keyId' = keyId := Option.some.inj (hpasses.kid.symm.trans hkid)
    subst hid
    have hfound := hpasses.found
    rw [hrecord, Option.some.injEq] at hfound
    subst hfound
    rcases hpasses.live with hlive | hlive
    · exact hlive hstatus
    · cases hlive
  verifyToken loads s revocations token instant principal hnames h := by
    obtain ⟨record', hrecord', hlive⟩ := AccessTokenService.status_of_verify h hnames
    rw [hrecord, Option.some.injEq] at hrecord'
    subst hrecord'
    exact hlive hstatus

/-- The key is revoked and its private half is gone. -/
def Withdrawn (keys : KeyProvider) (keyId : String) : Prop :=
  (∃ record, keys.getKeyRecord keyId = some record ∧ record.status = .revoked) ∧
    keys.privateKeys.get? keyId = none

theorem Withdrawn.barred {keys : KeyProvider} {keyId : String} (h : Withdrawn keys keyId) :
    Barred rt keys keyId := by
  obtain ⟨⟨record, hrecord, hstatus⟩, hprivate⟩ := h
  exact barred_of_revoked hrecord hstatus hprivate

/-- A call that does not retire the key leaves it withdrawn. -/
theorem withdrawn_step {keys : KeyProvider} {keyId : String} (h : Withdrawn keys keyId) {c : KeyCall}
    (hc : c ≠ .retire keyId) : Withdrawn (step rt keys c) keyId := by
  obtain ⟨⟨record, hrecord, hstatus⟩, hprivate⟩ := h
  rcases step_cases keys c with heq | ⟨privateKey, keyId', ownerId, purpose, notBefore, notAfter,
    window, rfl, hfresh, heq⟩ | ⟨keyId', record', status, hget, hcall, heq⟩
  · rw [heq]
    exact ⟨⟨record, hrecord, hstatus⟩, hprivate⟩
  · have hne : keyId ≠ keyId' := by
      rintro rfl
      rw [KeyProvider.getKeyRecord, hfresh] at hrecord
      cases hrecord
    rw [heq]
    refine ⟨⟨record, ?_, hstatus⟩, ?_⟩
    · rw [KeyProvider.getKeyRecord, Ordered.Dict.get?_set_of_ne _ _ hne]
      exact hrecord
    · rw [Ordered.Dict.get?_set_of_ne _ _ hne]
      exact hprivate
  · rw [heq]
    by_cases hid : keyId = keyId'
    · subst hid
      rcases hcall with ⟨hretire, -⟩ | ⟨reason, -, rfl⟩
      · exact absurd hretire hc
      · refine ⟨⟨{ record' with status := .revoked }, ?_, rfl⟩, ?_⟩
        · simp only [KeyProvider.withStatus, KeyProvider.getKeyRecord, Ordered.Dict.get?_set, if_true]
        · simp only [KeyProvider.withStatus, Ordered.Dict.get?_erase, if_true]
    · refine ⟨⟨record, ?_, hstatus⟩, ?_⟩
      · simp only [KeyProvider.withStatus, KeyProvider.getKeyRecord, Ordered.Dict.get?_set, if_neg hid]
        exact hrecord
      · simp only [KeyProvider.withStatus, Ordered.Dict.get?_erase, if_neg hid]
        exact hprivate

/-- A history that does not retire the key leaves it withdrawn. -/
theorem withdrawn_run {before : List KeyCall} {keyId : String}
    (h : Withdrawn (run rt before) keyId) {after : List KeyCall} (hafter : .retire keyId ∉ after) :
    Withdrawn (run rt (before ++ after)) keyId := by
  induction after using List.reverseRecOn with
  | nil =>
    rw [List.append_nil]
    exact h
  | append_singleton after c ih =>
    rw [List.mem_append, List.mem_singleton, not_or] at hafter
    rw [← List.append_assoc, run_append_singleton]
    exact withdrawn_step (ih hafter.1) (Ne.symm hafter.2)

/-- The call that revokes a key withdraws it. -/
theorem withdrawn_of_revoke {keys keys' : KeyProvider} {keyId reason : String}
    (h : keys.revoke keyId reason = .ok keys') : Withdrawn keys' keyId := by
  simp only [KeyProvider.revoke, bind_eq_ok, pure_eq_ok] at h
  obtain ⟨_, -, record, -, rfl⟩ := h
  refine ⟨⟨{ record with status := .revoked }, ?_, rfl⟩, ?_⟩
  · simp only [KeyProvider.withStatus, KeyProvider.getKeyRecord, Ordered.Dict.get?_set, if_true]
  · simp only [KeyProvider.withStatus, Ordered.Dict.get?_erase, if_true]

/-- The call that retires a key leaves it retired, whatever it was. -/
theorem retired_of_retire {keys : KeyProvider} {keyId : String} {record : KeyRecord}
    (h : keys.getKeyRecord keyId = some record) :
    (step rt keys (.retire keyId)).getKeyRecord keyId = some { record with status := .retired } := by
  have hstep : step rt keys (.retire keyId) = keys.withStatus keyId record .retired := by
    rw [step, KeyProvider.retire, requireRecord_eq_ok.mpr h]
    rfl
  rw [hstep]
  simp only [KeyProvider.withStatus, KeyProvider.getKeyRecord, Ordered.Dict.get?_set, if_true]

/-- In every state after a key was revoked the key is barred, exactly if the key is not retired
afterwards. -/
theorem revocation_permanent_iff {before after : List KeyCall} {keyId reason : String}
    {keys : KeyProvider} (hrevoke : (run rt before).revoke keyId reason = .ok keys) :
    (∀ later, later <+: after → Barred rt (run rt (before ++ .revoke keyId reason :: later)) keyId) ↔
      .retire keyId ∉ after := by
  have hrun : run rt (before ++ [.revoke keyId reason]) = keys := by
    rw [run_append_singleton, step, hrevoke]
    rfl
  have hwithdrawn : Withdrawn (run rt (before ++ [.revoke keyId reason])) keyId := by
    rw [hrun]
    exact withdrawn_of_revoke hrevoke
  constructor
  · intro h hretire
    obtain ⟨mid, rest, rfl⟩ := List.append_of_mem hretire
    have hmid := h mid (List.prefix_append _ _)
    have hend := h (mid ++ [.retire keyId]) ⟨rest, by simp⟩
    obtain ⟨record, hrecord, -⟩ := hmid.revoked
    obtain ⟨record', hrecord', hstatus⟩ := hend.revoked
    have hsplit : before ++ .revoke keyId reason :: (mid ++ [.retire keyId]) =
        (before ++ .revoke keyId reason :: mid) ++ [.retire keyId] := by simp
    rw [hsplit, run_append_singleton, retired_of_retire hrecord] at hrecord'
    cases hrecord'
    cases hstatus
  · rintro h later ⟨rest, rfl⟩
    have hlater : .retire keyId ∉ later := fun hmem => h (List.mem_append_left _ hmem)
    have hsplit : before ++ .revoke keyId reason :: later =
        (before ++ [.revoke keyId reason]) ++ later := by simp
    rw [hsplit]
    exact (withdrawn_run hwithdrawn hlater).barred

/-- A key of the sample that is revoked and never retired. -/
theorem revocation_permanent_iff_sample :
    Barred sealedRuntime (run sealedRuntime ([Sample.generated 0 2000000] ++
      .revoke "EXEC" "compromised" :: [.sign (Sample.call 1500000)])) "EXEC" := by
  have hiff := @revocation_permanent_iff sealedRuntime [Sample.generated 0 2000000]
    [.sign (Sample.call 1500000)] "EXEC" "compromised" _ rfl
  exact hiff.mpr (by simp) _ (List.prefix_refl _)

/-- The sample key signs an artifact, is revoked and then retired: the artifact verifies again. -/
theorem retired_after_revocation_verifies :
    ∃ e, signArtifact sealedRuntime (run sealedRuntime [Sample.generated 0 2000000])
        (Sample.call 1500000) = .ok e ∧
      verifyArtifact sealedRuntime (run sealedRuntime
        [Sample.generated 0 2000000, .revoke "EXEC" "compromised"]) e (some .utt) false =
        .ok ⟨false, "KEY_REVOKED", some "EXEC", some .utt⟩ ∧
      verifyArtifact sealedRuntime (run sealedRuntime
        [Sample.generated 0 2000000, .revoke "EXEC" "compromised", .retire "EXEC"]) e (some .utt) false =
        .ok ⟨true, "VALID", some "EXEC", some .utt⟩ := by
  obtain ⟨e, he⟩ : ∃ e, signArtifact sealedRuntime (run sealedRuntime [Sample.generated 0 2000000])
    (Sample.call 1500000) = .ok e := ⟨_, rfl⟩
  have hlater : (run sealedRuntime ([Sample.generated 0 2000000] ++
      [.revoke "EXEC" "compromised", .retire "EXEC"])).getKeyRecord "EXEC" =
      some ⟨"EXEC", "RAILONE", .executionSigning, "secret".toUTF8, .retired, 0, 2000000, by decide⟩ :=
    rfl
  have hpasses := passes_of_signArtifact Sample.faithfulSignatures_sealedRuntime he rfl hlater
    (by decide) (by decide) ⟨1000000, rfl, by decide, by decide⟩
  refine ⟨e, he, ?_, verifyArtifact_of_passes hpasses⟩
  cases he
  rfl

end ArtifactService

end RailOne
