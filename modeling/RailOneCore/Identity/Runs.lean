import RailOneCore.Identity.Continuity
import RailOneCore.Library.Schedule
import RailOneCore.Foundation.SampleRuntime

/-!
# Identities over whole runs

Any number of calls onboard and revise identities over one repository.  `protocol` is what they agree
on; a call that stores a revision stores the next one of the identity that its attestation names.
-/

namespace RailOne

open Concurrent Ordered IdentityRepository

namespace IdentityContinuityService

/-- What holds of the repository: its maps fit together, and every identity is that of a seed. -/
structure Invariant (d : ContinuityDeployment) (r : IdentityRepository) : Prop where
  consistent : r.Consistent
  seeded : ∀ uid bundle, r.byContinuityUid.get? uid = some bundle →
    ∃ payload, d.fingerprint payload = .ok bundle.genesis.identityFingerprint

/-- What the calls agree on. -/
def protocol (d : ContinuityDeployment) : Protocol IdentityRepository where
  Inv := Invariant d
  Rely := Grows
  avail _ := 0
  rely_refl := .refl
  rely_trans _ _ _ := .trans

/-- What an operation of a call may do: nothing, or add a revision that its attestation backs. -/
def Extends (d : ContinuityDeployment) (attestation : SignatureEnvelope) (r r' : IdentityRepository) :
    Prop :=
  r' = r ∨ Grows r r' ∧ ∃ bundle, Adds r bundle r' ∧ Backs d attestation bundle

/-- The program keeps what the calls agree on. -/
def Respects (d : ContinuityDeployment) (attestation : SignatureEnvelope) {α : Type}
    (p : IdentityCode α) (r : IdentityRepository) : Prop :=
  Safe (protocol d) (fun o r x r' => r.answer o = (x, r')) (fun _ => Extends d attestation)
    (fun _ _ _ => True) p 0 r

variable {d : ContinuityDeployment} {keys : KeyProvider} {seed : IdentitySeed}
  {attestation : SignatureEnvelope} {instant : Instant} {α : Type} {r r' : IdentityRepository}
  {bundle : IdentityBundle}

theorem grows_of_extends (h : Extends d attestation r r') : Grows r r' := by
  rcases h with rfl | ⟨hgrows, -⟩
  · exact .refl _
  · exact hgrows

/-- The invariant, after a revision has been added. -/
theorem invariant_of_adds (hr : Invariant d r) (hconsistent : r'.Consistent) (hadds : Adds r bundle r')
    (hbacks : Backs d attestation bundle) : Invariant d r' := by
  refine ⟨hconsistent, fun uid b hb => ?_⟩
  by_cases huid : uid = bundle.identity.continuityUid
  · subst huid
    rw [hadds.stored, Option.some.injEq] at hb
    subst hb
    obtain ⟨payload, -, hfingerprint, -⟩ := hbacks
    exact ⟨payload, hfingerprint⟩
  · rw [(hadds.others uid huid).1] at hb
    exact hr.seeded uid b hb

theorem Respects.ret (x : Except Exn α) : Respects d attestation (.ret x) r :=
  safe_ret.mpr fun _ _ _ => trivial

theorem Respects.lift {β : Type} {x : Except Exn β} {f : β → IdentityCode α}
    (hf : ∀ a, x = .ok a → Respects d attestation (f a) r) :
    Respects d attestation (liftM x >>= f) r :=
  Safe.lift hf fun e _ => Respects.ret (.error e)

/-- Reading an identity before the rest. -/
theorem Respects.getByFingerprint {fingerprint : String} {f : Option IdentityBundle → IdentityCode α}
    (hf : ∀ r', Invariant d r' → Respects d attestation (f (r'.byFingerprint.get? fingerprint)) r') :
    Respects d attestation (IdentityCode.getByFingerprint fingerprint >>= f) r := by
  refine Safe.call (o := IdentityOp.getByFingerprint fingerprint) fun s₁ _ hinv _ x s₂ hsem => ?_
  cases hsem
  exact ⟨hinv, .inl rfl, 0, rfl, fun a ha => Except.ok.inj ha ▸ hf s₁ hinv, nofun⟩

/-- An update before the rest, which may add a revision that the attestation backs. -/
theorem Respects.update {o : IdentityOp} {f : o.Ret → IdentityCode α}
    (hf : ∀ a s, Respects d attestation (f a) s)
    (ho : ∀ s₁ x s₂, Grows r s₁ → Invariant d s₁ → s₁.answer o = (x, s₂) →
      s₂ = s₁ ∨ s₂.Consistent ∧ Grows s₁ s₂ ∧ ∃ bundle, Adds s₁ bundle s₂ ∧
        Backs d attestation bundle) :
    Respects d attestation (Prog.call o >>= f) r := by
  refine Safe.call fun s₁ h₁ hinv _ x s₂ hsem => ?_
  have hnext : (protocol d).Inv s₂ ∧ Extends d attestation s₁ s₂ := by
    rcases ho s₁ x s₂ h₁ hinv hsem with rfl | ⟨hconsistent, hgrows, bundle, hadds, hbacks⟩
    · exact ⟨hinv, .inl rfl⟩
    · exact ⟨invariant_of_adds hinv hconsistent hadds hbacks, .inr ⟨hgrows, bundle, hadds, hbacks⟩⟩
  exact ⟨hnext.1, hnext.2, 0, rfl, fun a _ => hf a s₂, fun e _ => Respects.ret (.error e)⟩

/-! ## The two calls -/

/-- An update succeeds or leaves the repository as it is. -/
theorem commit_eq {x : Except Exn IdentityRepository} {a : Except Exn Unit}
    (h : r.commit x = (a, r')) : x = .ok r' ∧ a = .ok () ∨ r' = r := by
  unfold IdentityRepository.commit at h
  split at h
  · cases h
    exact .inl ⟨rfl, rfl⟩
  · cases h
    exact .inr rfl

theorem respects_onboard {corridor : String} {at_ : Datetime} :
    Respects d attestation (onboard d keys seed attestation corridor at_) r := by
  unfold onboard
  refine Respects.lift fun instant _ => Respects.lift fun attested hattested =>
    Respects.lift fun fingerprint hfingerprint => Respects.getByFingerprint fun s _ => ?_
  obtain ⟨hseed, hclaims⟩ := checkAttestation_eq_ok hattested
  split
  · exact Respects.ret _
  · refine Respects.lift fun bundle hbundle => Respects.update (o := IdentityOp.save bundle)
      (fun _ _ => Respects.ret _) fun s₁ x s₂ _ hinv hsem => ?_
    obtain ⟨hprint, hrevision, hstatus, hid⟩ := newBundle_eq_ok hbundle
    rcases commit_eq hsem with ⟨hsave, -⟩ | hsame
    · obtain ⟨hconsistent, hgrows, hadds⟩ := save_spec hinv.consistent hsave hrevision hstatus
      exact .inr ⟨hconsistent, hgrows, bundle, hadds, attested.payload, hseed, hprint ▸ hfingerprint,
        hclaims ▸ hid⟩
    · exact .inl hsame

/-- An identity that still has the revision it once had is the same, and is revoked if it was. -/
theorem same_of_grows {current current' : IdentityBundle} {fingerprint : String}
    (hr : r.Consistent) (hr' : r'.Consistent) (hgrows : Grows r r')
    (hcurrent : r.byFingerprint.get? fingerprint = some current)
    (hcurrent' : r'.byContinuityUid.get? current.identity.continuityUid = some current')
    (hrevision : current'.activeRevision.revision = current.activeRevision.revision) :
    current' = current := by
  obtain ⟨-, huid⟩ := hr.fingerprint _ _ hcurrent
  obtain ⟨-, -, l, hl, hhistory⟩ := hr.identity _ _ huid
  obtain ⟨-, -, l', hl', hhistory'⟩ := hr'.identity _ _ hcurrent'
  obtain ⟨b, m, hb, hm, hevolves⟩ := hgrows _ _ _ huid hl
  rw [hcurrent', Option.some.injEq] at hb
  rw [hl', Option.some.injEq] at hm
  subst hb hm
  exact hevolves.same (by rw [← hhistory.length_eq, ← hhistory'.length_eq, hrevision])

theorem respects_revise {status : IdentityStatus} {reason : String} {at_ : Datetime} :
    Respects d attestation (revise d keys seed attestation status reason at_) r := by
  unfold revise
  refine Respects.lift fun instant _ => Respects.lift fun reason' _ =>
    Respects.lift fun attested hattested => Respects.lift fun fingerprint hfingerprint =>
      Respects.getByFingerprint fun s hs => ?_
  obtain ⟨hseed, hclaims⟩ := checkAttestation_eq_ok hattested
  split
  · exact Respects.ret _
  next current hcurrent =>
  split_ifs with hrevoked
  · exact Respects.ret _
  refine Respects.lift fun updated hupdated =>
    Respects.update (o := IdentityOp.appendRevision current.activeRevision.revision updated)
      (fun _ _ => Respects.ret _) fun s₁ x s₂ hgrows hinv hsem => ?_
  obtain ⟨hgenesis, huid, hid⟩ := revisedBundle_eq_ok hupdated
  rcases commit_eq hsem with ⟨happend, -⟩ | hsame
  · -- the repository still has the revision that the call has read
    have hactive : ∀ current', s₁.byContinuityUid.get? updated.identity.continuityUid = some current' →
        current'.activeRevision.revision = current.activeRevision.revision →
        current'.identity.status ≠ .revoked := by
      intro current' hcurrent' hrevision
      rw [huid] at hcurrent'
      rw [same_of_grows hs.consistent hinv.consistent hgrows hcurrent hcurrent' hrevision]
      exact hrevoked
    obtain ⟨hconsistent, hgrows', hadds⟩ := appendRevision_spec hinv.consistent happend hactive
    refine .inr ⟨hconsistent, hgrows', updated, hadds, attested.payload, hseed, ?_, hclaims ▸ hid⟩
    obtain ⟨hprint, -⟩ := hs.consistent.fingerprint _ _ hcurrent
    rw [hgenesis, hprint]
    exact hfingerprint
  · exact .inl hsame

theorem respects_body (c : IdentityCall) : Respects d c.attestation (c.body d) r := by
  cases c with
  | onboard => exact Safe.map Sum.inl respects_onboard (fun _ _ _ h => h) fun _ _ _ h => h
  | revise => exact Safe.map Sum.inr respects_revise (fun _ _ _ h => h) fun _ _ _ h => h

/-- The operations that read. -/
def Reads : IdentityOp → Prop
  | .getByFingerprint _ => True
  | .save _ | .appendRevision .. => False

/-- A call updates the repository in its last operation, if at all. -/
theorem commitLast_body (c : IdentityCall) :
    (c.body d).CommitLast Reads fun _ x => ∃ e, x = .error e := by
  have hread : ∀ fingerprint, (IdentityCode.getByFingerprint fingerprint).Ops Reads :=
    fun _ => Prog.ops_op.mpr ⟨trivial, fun _ => Prog.ops_ret _⟩
  cases c with
  | onboard keys seed attestation corridor at_ =>
    refine Prog.CommitLast.map Sum.inl ?_
    unfold onboard
    with_reducible refine Prog.CommitLast.bind (Prog.ops_liftM _) fun instant => ?_
    with_reducible refine Prog.CommitLast.bind (Prog.ops_liftM _) fun attested => ?_
    with_reducible refine Prog.CommitLast.bind (Prog.ops_liftM _) fun fingerprint => ?_
    with_reducible refine Prog.CommitLast.bind (hread fingerprint) fun existing => ?_
    split
    · exact Prog.commitLast_ret _
    · with_reducible refine Prog.CommitLast.bind (Prog.ops_liftM _) fun bundle => ?_
      exact Prog.commitLast_call _ _
  | revise keys seed attestation status reason at_ =>
    refine Prog.CommitLast.map Sum.inr ?_
    unfold revise
    with_reducible refine Prog.CommitLast.bind (Prog.ops_liftM _) fun instant => ?_
    with_reducible refine Prog.CommitLast.bind (Prog.ops_liftM _) fun reason' => ?_
    with_reducible refine Prog.CommitLast.bind (Prog.ops_liftM _) fun attested => ?_
    with_reducible refine Prog.CommitLast.bind (Prog.ops_liftM _) fun fingerprint => ?_
    with_reducible refine Prog.CommitLast.bind (hread fingerprint) fun current => ?_
    split
    · exact Prog.commitLast_ret _
    · split_ifs
      · exact Prog.commitLast_ret _
      · with_reducible refine Prog.CommitLast.bind (Prog.ops_liftM _) fun updated => ?_
        exact Prog.commitLast_call _ _

/-! ## Seeds -/

/-- Distinct canonical seeds have distinct fingerprints, as far as HMAC has no collisions. -/
theorem fingerprint_injective (hhmac : ∀ secret, Function.Injective (d.rt.hmacSha256 secret))
    {payload payload' : IdentitySeed} {fingerprint : String}
    (h : d.fingerprint payload = .ok fingerprint) (h' : d.fingerprint payload' = .ok fingerprint) :
    payload = payload' := by
  simp only [ContinuityDeployment.fingerprint, bind_eq_ok] at h h'
  obtain ⟨body, hbody, hderive⟩ := h
  obtain ⟨body', hbody', hderive'⟩ := h'
  have hbodies : body = body' := by
    unfold ContinuitySecretProvider.derive at hderive hderive'
    split at hderive
    · next secret hsecret =>
      rw [hsecret] at hderive'
      have heq := hhmac secret (Except.ok.inj (hderive.trans hderive'.symm))
      exact (ByteArray.append_right_inj _).mp heq
    · cases hderive
  subst hbodies
  exact IdentitySeed.eq_of_bytes_eq hbody hbody'

/-- The identity belongs to the canonical seed. -/
def IsIdentityOf (d : ContinuityDeployment) (payload : IdentitySeed) (bundle : IdentityBundle) : Prop :=
  d.fingerprint payload = .ok bundle.genesis.identityFingerprint

end IdentityContinuityService

open IdentityContinuityService

/-- In every run of onboardings and revisions, whatever the interleaving: the repository is consistent;
every identity belongs to exactly one canonical seed, and a seed has at most one identity; identities
evolve only by further revisions; every change adds one revision, which the attestation of the call
backs, and no attestation backs two; and a call that raises has changed nothing. -/
theorem identity_continuity {d : ContinuityDeployment}
    (hhmac : ∀ secret, Function.Injective (d.rt.hmacSha256 secret))
    {l : List (System.Event IdentityCall IdentityOp IdentityRepository)}
    {x : Config IdentityOp.Resp IdentityCall Exn (OnboardingResult ⊕ IdentityBundle) IdentityRepository}
    (h : (identitySystem d).Trace ⟨IdentityRepository.empty, []⟩ l x) :
    x.state.Consistent ∧
      (∀ uid bundle, x.state.byContinuityUid.get? uid = some bundle →
        ∃! payload, IsIdentityOf d payload bundle) ∧
      (∀ payload uid uid' bundle bundle', x.state.byContinuityUid.get? uid = some bundle →
        x.state.byContinuityUid.get? uid' = some bundle' → IsIdentityOf d payload bundle →
        IsIdentityOf d payload bundle' → uid = uid' ∧ bundle = bundle') ∧
      (∀ y, (identitySystem d).Steps x y → Grows x.state y.state) ∧
      (∀ e ∈ l, Extends d e.call.attestation e.before e.after) ∧
      l.Pairwise (fun e e' => e.after ≠ e.before → e'.after ≠ e'.before →
        e.call.attestation ≠ e'.call.attestation) ∧
      ∀ i c o y z exn, (identitySystem d).Performs i c o x y → (identitySystem d).Steps y z →
        z.threads[i]? = some ⟨c, .ret (.error exn)⟩ → y.state = x.state := by
  let P := protocol d
  let G : ℕ → IdentityCall → IdentityOp → IdentityRepository → IdentityRepository → Prop :=
    fun _ c _ => Extends d c.attestation
  have hG : ∀ i c o s s', G i c o s s' → P.Rely s s' := fun _ _ _ _ _ => grows_of_extends
  have hbody : ∀ i c s, P.Inv s → Safe P ((identitySystem d).sem c) (G i c) (fun _ _ _ => True)
      ((identitySystem d).body c) 0 s := fun _ c _ _ => respects_body c
  have hinit : Invariant d IdentityRepository.empty :=
    ⟨consistent_empty, fun _ _ hget => by cases hget⟩
  have hstart : P.Holds (identitySystem d) G (fun _ _ _ _ => True) ⟨IdentityRepository.empty, []⟩ :=
    ⟨hinit, fun _ => 0, rfl, nofun⟩
  obtain ⟨hholds, hevents, hpairs⟩ := System.holds_of_trace hG hstart hbody h
  have hinv : Invariant d x.state := hholds.1
  have hconsistent := hinv.consistent
  refine ⟨hconsistent, ?_, ?_, ?_, ?_, ?_, ?_⟩
  · intro uid bundle hbundle
    obtain ⟨payload, hpayload⟩ := hinv.seeded uid bundle hbundle
    exact ⟨payload, hpayload, fun payload' hpayload' => fingerprint_injective hhmac hpayload' hpayload⟩
  · intro payload uid uid' bundle bundle' hbundle hbundle' hseed hseed'
    obtain ⟨huid, hget, -⟩ := hconsistent.identity _ _ hbundle
    obtain ⟨huid', hget', -⟩ := hconsistent.identity _ _ hbundle'
    have hprint := Except.ok.inj (hseed.symm.trans hseed')
    rw [hprint, hget', Option.some.injEq] at hget
    exact ⟨huid.symm.trans (hget ▸ huid'), hget.symm⟩
  · intro y hy
    exact (System.holds_of_steps (A := fun _ => True) hG hholds (fun i c s _ _ hs => hbody i c s hs)
      (fun _ _ => trivial) hy).2.2
  · intro e he
    obtain ⟨_, heffect⟩ := (hevents e he).effect
    exact heffect
  · refine hpairs.imp_of_mem fun {e e'} he he' hrely hchanged hchanged' hsame => ?_
    obtain ⟨_, heffect⟩ := (hevents e he).effect
    obtain ⟨_, heffect'⟩ := (hevents e' he').effect
    obtain ⟨-, bundle, hadds, hbacks⟩ := heffect.resolve_left hchanged
    obtain ⟨-, bundle', hadds', hbacks'⟩ := heffect'.resolve_left hchanged'
    rw [hsame] at hbacks
    obtain ⟨hprint, hid⟩ := hbacks.unique hbacks'
    have hused : Used e'.before bundle.genesis.identityFingerprint bundle.activeRevision.attestationId :=
      Grows.used hrely (hevents e he).after.consistent (hevents e' he').before.consistent hadds.used
    rw [hprint, hid] at hused
    exact hadds'.unused hused
  · intro i c o y z exn hp hz hraised
    refine (identitySystem d).unchanged_of_raised commitLast_body ?_ ?_
      ((identitySystem d).steps_of_trace h) hp hz hraised
    · intro c o s r s' ho hsem
      cases o with
      | getByFingerprint => cases hsem; rfl
      | save | appendRevision => exact ho.elim
    · rintro c o s _ s' ⟨e, rfl⟩ hsem
      cases o with
      | getByFingerprint => cases hsem
      | save | appendRevision =>
        rcases commit_eq hsem with ⟨-, hanswer⟩ | hsame
        · cases hanswer
        · exact hsame

/-! ## A run of the sample -/

namespace Sample

/-- The message that the sample's fingerprint is derived from. -/
def continuityMessage : String :=
  "RAILONE-IDENTITY-CONTINUITY-V1\x00\x7b\"country_code\":\"KE\",\"provider_id\":\"IDP\"," ++
    "\"provider_subject_reference\":\"SUBJECT-1\"\x7d"

/-- The library functions of the sample, with an HMAC that never collides. -/
def continuityRuntime : Runtime :=
  { runtime with hmacSha256 := fun _ => listedDigest [continuityMessage.toUTF8.data.toList] }

/-- The service of the sample. -/
def continuityDeployment : ContinuityDeployment where
  rt := continuityRuntime
  nfkc value := value
  continuityKeyId := "CONTINUITY-1"
  secrets := ⟨Dict.empty.set "CONTINUITY-1" "0123456789abcdef0123456789abcdef".toUTF8⟩

/-- The signing key of the identity provider. -/
def identityKeys : KeyProvider :=
  match KeyProvider.empty.generate continuityRuntime "secret".toUTF8 "IDP-KEY" "IDP" .identitySigning 0
    (seconds 1000) with
  | .ok keys => keys
  | .error _ => .empty

/-- The seed of the sample. -/
def identitySeed : IdentitySeed := ⟨"IDP", "SUBJECT-1", "KE"⟩

/-- An attestation of the sample's subject. -/
def identityAttestation (attestationId : String) : SignatureEnvelope :=
  let claims : Fields :=
    [("attestation_id", .str attestationId), ("provider_id", .str "IDP"),
      ("provider_subject_reference", .str "SUBJECT-1"), ("verification_reference", .str "REF-1"),
      ("country_code", .str "KE"), ("verification_result", .str "VERIFIED"), ("trust_tier", .str "T2"),
      ("evidence_sha256", .str (tag 10)), ("issued_at", .int 0), ("expires_at", .int 1000)]
  match SignatureService.signArtifact continuityRuntime identityKeys .identityAttestation claims
    "IDP-KEY" 0 with
  | .ok attestation => attestation
  | .error _ => default

/-- The answers of the repository. -/
def identityAnswer (_ : IdentityCall) (o : IdentityOp) (r : IdentityRepository) :
    Option (o.Resp × IdentityRepository) := some (r.answer o)

/-- Two onboardings of one seed, and then two revisions of the identity, race. -/
def identityActions : List (Action IdentityCall) :=
  [.start (.onboard identityKeys identitySeed (identityAttestation "ATT-1") "KE-UG" (.aware 0)),
    .start (.onboard identityKeys identitySeed (identityAttestation "ATT-1") "KE-UG" (.aware 0)),
    .step 0, .step 1, .step 0, .step 1,
    .start (.revise identityKeys identitySeed (identityAttestation "ATT-2") .revoked "review" (.aware 0)),
    .start (.revise identityKeys identitySeed (identityAttestation "ATT-3") .active "review" (.aware 0)),
    .step 2, .step 3, .step 2, .step 3]

/-- Where the race ends. -/
def racingAttesters : Config IdentityOp.Resp IdentityCall Exn (OnboardingResult ⊕ IdentityBundle)
    IdentityRepository :=
  (identitySystem continuityDeployment).schedule identityAnswer identityActions
    ⟨IdentityRepository.empty, []⟩

theorem exists_trace_racing : ∃ l,
    (identitySystem continuityDeployment).Trace ⟨IdentityRepository.empty, []⟩ l racingAttesters :=
  System.exists_trace_schedule (fun _ _ _ _ _ h => Option.some.inj h) identityActions .nil

end Sample

/-- In the sample the identity is onboarded once and revised once, and then revoked for good. -/
theorem identity_continuity_sample :
    ∃ bundle, Sample.racingAttesters.state.byContinuityUid.get? ("CUID-" ++ continuitySegment (Sample.tag 0)) =
        some bundle ∧ bundle.activeRevision.revision = 2 ∧ bundle.identity.status = .revoked ∧
      ∀ y, (identitySystem Sample.continuityDeployment).Steps Sample.racingAttesters y →
        Grows Sample.racingAttesters.state y.state := by
  have hhmac : ∀ secret, Function.Injective (Sample.continuityDeployment.rt.hmacSha256 secret) :=
    fun _ => Sample.listedDigest_injective (by decide)
  obtain ⟨l, hl⟩ := Sample.exists_trace_racing
  obtain ⟨-, -, -, hgrows, -⟩ := identity_continuity hhmac hl
  have hrevoked : ((Sample.racingAttesters.state.byContinuityUid.get?
      ("CUID-" ++ continuitySegment (Sample.tag 0))).map
        fun bundle => (bundle.activeRevision.revision, bundle.identity.status)) = some (2, .revoked) := by
    decide +kernel
  obtain ⟨bundle, hbundle, heq⟩ := Option.map_eq_some_iff.mp hrevoked
  rw [Prod.mk.injEq] at heq
  exact ⟨bundle, hbundle, heq.1, heq.2, hgrows⟩

end RailOne
