import RailOneCore.Operations.Runs

/-!
# A payment is submitted once

Any number of workers prepare and dispatch, in any interleaving and with crashes anywhere.  An adapter
that does not support idempotency is called at most once for an RTT; a dispatch that starts after the
submission is final does not call the adapter; and all calls for one RTT carry one request, although
the endpoint resolver may answer differently each time, because a replayed preparation is refused
unless its request has the digest of the stored one.

In the runs considered here only the coordinator and the relay work, so that the stores of contracts
and of executions stay as they are.
-/

namespace RailOne

open Concurrent Ordered ProviderSubmissionCoordinator

/-- The call is one of the coordinator or of the relay. -/
def Call.coordinates : Call → Bool
  | .prepare .. | .dispatch .. | .publishBatch .. => true
  | _ => false

/-- If the call dispatches the RTT, then with an adapter that does not support idempotency. -/
def Call.dispatchesPlainly (rttId : String) : Call → Bool
  | .dispatch id adapter _ => strip id != strip rttId || !adapter.supportsIdempotency
  | _ => true

/-- How often an adapter has been called for the RTT. -/
def World.submitsOf (w : World) (rttId : String) : ℕ :=
  w.invocations.countP fun p => strip p.2.rttId == strip rttId

/-- The submission stored under the identifier is final. -/
def World.submissionFinal (w : World) (rttId : String) : Prop :=
  ∃ s, w.operations.submissionsByRtt.get? rttId = some s ∧ s.state.isFinal = true

namespace Operations

variable {d : Deployment} {w₀ : World} {x y z : Config Op.Resp Call Exn Reply World}

/-! ## The other stores stay as they are -/

/-- The contracts and the executions are those of `w₀`. -/
def Pinned (w₀ w : World) : Prop := w.contracts = w₀.contracts ∧ w.executions = w₀.executions

theorem pinned_of_sem {o : Op} {w w' : World} {r : o.Resp}
    (ho : o.part ≠ .contracts ∧ o.part ≠ .executions) (hw : Pinned w₀ w)
    (h : World.sem d.rt o w r w') : Pinned w₀ w' := by
  have hframe := World.frame_of_sem h
  exact ⟨(hframe.contracts ho.1).trans hw.1, (hframe.executions ho.2).trans hw.2⟩

theorem ops_of_coordinates {c : Call} (hc : c.coordinates = true) :
    (c.body d).Ops fun o => o.part ≠ .contracts ∧ o.part ≠ .executions := by
  refine (ops_body d c).mono fun o ho => ?_
  constructor <;> intro heq <;> rw [heq] at ho <;> cases c <;> simp_all [Call.coordinates, Call.parts]

/-- Runs of the coordinator and of the relay are runs in pinned worlds. -/
theorem steps_pinned (hx : Pinned w₀ x.state)
    (hthreads : ∀ t ∈ x.threads, t.prog.Ops fun o => o.part ≠ .contracts ∧ o.part ≠ .executions)
    (hcalls : ∀ t ∈ y.threads, t.call.coordinates = true) (h : (system d).Steps x y) :
    ((system d).guarded fun _ _ w => Pinned w₀ w).Steps x y ∧ Pinned w₀ y.state ∧
      ∀ t ∈ y.threads, t.prog.Ops fun o => o.part ≠ .contracts ∧ o.part ≠ .executions :=
  (system d).steps_guarded_of_ops (fun _ _ _ _ _ ho hw hs => pinned_of_sem ho hw hs)
    (fun _ _ _ hw => hw) hx hthreads (fun t ht => ops_of_coordinates (hcalls t ht)) h

/-! ## One request -/

/-- In pinned worlds, requests for one RTT have the same identifier and come from the same draft. -/
theorem draft_of_prepared {p q : ProviderExecutionRequest} (hp : Prepared d (Pinned w₀) p)
    (hq : Prepared d (Pinned w₀) q) (h : strip p.rttId = strip q.rttId) :
    p.rttId = q.rttId ∧ ∃ (draft : RequestDraft) (pr br pr' br' : String),
      draft.resolved d pr br = .ok p ∧ draft.resolved d pr' br' = .ok q := by
  obtain ⟨wa, wp, wu, hwa, hwp, hwu, a, plan, utt, ha, -, hplan, hcurrent, hutt, draft, pr, br,
    hdraft, hres⟩ := hp.reads
  obtain ⟨wa', wp', wu', hwa', hwp', hwu', a', plan', utt', ha', -, hplan', hcurrent', hutt',
    draft', pr', br', hdraft', hres'⟩ := hq.reads
  rw [hwa.2, h, ← hwa'.2, ha', Option.some.injEq] at ha
  subst ha
  rw [hwp.2, ← hwp'.2, hplan', Option.some.injEq] at hplan
  subst hplan
  rw [hwu.1, ← hwu'.1, hutt', Option.some.injEq] at hutt
  subst hutt
  rw [hcurrent', Option.some.injEq] at hcurrent
  rw [← hcurrent, hdraft', Except.ok.injEq] at hdraft
  subst hdraft
  exact ⟨hcurrent.symm, _, pr, br, pr', br', hres, hres'⟩

/-- The digest of a request determines the account references. -/
theorem references_of_material (hcf : CollisionFree d.rt) {p q : ProviderExecutionRequest}
    {sha : String} (hp : d.rt.payloadSha256 p.material = .ok sha)
    (hq : d.rt.payloadSha256 q.material = .ok sha) :
    p.payerAccountReference = q.payerAccountReference ∧
      p.beneficiaryAccountReference = q.beneficiaryAccountReference := by
  obtain ⟨bytes, hbytes, rfl⟩ := d.rt.payloadSha256_eq_ok.mp hp
  obtain ⟨bytes', hbytes', hsha⟩ := d.rt.payloadSha256_eq_ok.mp hq
  obtain rfl := hcf.sha256 hsha
  have hget := get_of_canonicalJsonBytes_eq (by simp) (by simp) hbytes hbytes'
  constructor
  · simpa [Fields.get, List.lookup, CanonicalJson.sortKeys] using hget "payer_account_reference"
  · simpa [Fields.get, List.lookup, CanonicalJson.sortKeys] using
      hget "beneficiary_account_reference"

/-- Calls of adapters for one RTT carry one request. -/
theorem request_eq (hcf : CollisionFree d.rt) {w : World} {p q : ProviderExecutionRequest}
    (hp : Justified d (Pinned w₀) w p) (hq : Justified d (Pinned w₀) w q)
    (h : strip p.rttId = strip q.rttId) : p = q := by
  obtain ⟨hid, draft, pr, br, pr', br', hres, hres'⟩ := draft_of_prepared hp.1 hq.1 h
  obtain ⟨-, s, hs, -, hsha⟩ := hp
  obtain ⟨-, s', hs', -, hsha'⟩ := hq
  rw [hid, hs', Option.some.injEq] at hs
  subst hs
  obtain ⟨heq, hmat⟩ := RequestDraft.resolved_eq_ok hres
  obtain ⟨heq', hmat'⟩ := RequestDraft.resolved_eq_ok hres'
  rw [← hsha] at hmat heq
  rw [← hsha'] at hmat' heq'
  obtain ⟨hpayer, hbeneficiary⟩ := references_of_material hcf hmat hmat'
  rw [heq, heq'] at hpayer hbeneficiary
  obtain rfl : pr = pr' := hpayer
  obtain rfl : br = br' := hbeneficiary
  exact heq.trans heq'.symm

/-! ## Runs -/

/-- The protocol of submissions in a run of the coordinator and of the relay. -/
theorem holds_of_coordinates {track : Option String} (hops : w₀.operations = .empty)
    (hinvocations : w₀.invocations = []) (hcalls : ∀ t ∈ x.threads, t.call.coordinates = true)
    (htrack : ∀ t ∈ x.threads, t.call.Tracked track) (hx : (system d).Reachable w₀ x) :
    (protocol d (Pinned w₀) (fun _ => True) track).Holds
      ((system d).guarded fun _ _ w => Pinned w₀ w)
      (fun _ _ => Guarantee d (Pinned w₀) fun _ => True) (fun _ => anyEnd) x :=
  holds_of_reachable stable_true (fun _ _ _ h => h) trivial hops hinvocations htrack
    (steps_pinned ⟨rfl, rfl⟩ (by simp) hcalls hx).1

/-- Whatever an adapter has been called with was justified. -/
theorem justified_of_reachable (hops : w₀.operations = .empty) (hinvocations : w₀.invocations = [])
    (hcalls : ∀ t ∈ x.threads, t.call.coordinates = true) (hx : (system d).Reachable w₀ x) :
    ∀ p ∈ x.state.invocations, Justified d (Pinned w₀) x.state p.2 :=
  (holds_of_coordinates hops hinvocations hcalls (fun t _ => t.call.tracked_none) hx).1.2.2.1

/-- With an adapter that does not support idempotency, an RTT is submitted at most once. -/
theorem submitsOf_le_one (hops : w₀.operations = .empty) (hinvocations : w₀.invocations = [])
    (hcalls : ∀ t ∈ x.threads, t.call.coordinates = true) (hx : (system d).Reachable w₀ x)
    {rttId : String} (hplain : ∀ t ∈ x.threads, t.call.dispatchesPlainly rttId = true) :
    x.state.submitsOf rttId ≤ 1 := by
  by_cases hsome : ∃ p ∈ x.state.invocations, strip p.2.rttId = strip rttId
  · obtain ⟨p, hp, hid⟩ := hsome
    -- all requests for the RTT carry the identifier that the plan holds
    have hjust := justified_of_reachable hops hinvocations hcalls hx
    have hliteral : ∀ q ∈ x.state.invocations, strip q.2.rttId = strip rttId →
        q.2.rttId = p.2.rttId := fun q hq hqid =>
      (draft_of_prepared (hjust q hq).1 (hjust p hp).1 (hqid.trans hid.symm)).1
    have htracked : ∀ t ∈ x.threads, t.call.Tracked (some p.2.rttId) := by
      intro t ht
      have hdispatch := hplain t ht
      cases hc : t.call with
      | dispatch id adapter at_ =>
        rw [hc] at hdispatch
        intro heq
        rw [Option.some.injEq] at heq
        simpa [Call.dispatchesPlainly, ← heq, hid] using hdispatch
      | _ => trivial
    have hcount := (holds_of_coordinates hops hinvocations hcalls htracked hx).1.2.2.2 _ rfl
    have hle : x.state.submitsOf rttId ≤ invocationsOf x.state p.2.rttId := by
      refine List.countP_mono_left fun q hq hqid => ?_
      rw [beq_iff_eq] at hqid ⊢
      exact hliteral q hq hqid
    refine hle.trans (hcount.trans ?_)
    split_ifs <;> simp
  · have hzero : x.state.submitsOf rttId = 0 :=
      List.countP_eq_zero.mpr fun q hq hqid => hsome ⟨q, hq, by simpa using hqid⟩
    rw [hzero]
    exact Nat.zero_le 1

theorem stable_submissionFinal (rttId : String) : Stable fun w => w.submissionFinal rttId := by
  rintro w w' ⟨s, hs, hfinal⟩ h
  obtain ⟨t, ht, -, -, -, heq, -⟩ := h.submission hs
  have hts : t = s := heq hfinal
  exact ⟨t, ht, hts.symm ▸ hfinal⟩

/-- What the `i`-th call guarantees in a run that goes on from a configuration with `n` started
calls: calls that start later find only worlds that satisfy `F`. -/
def LaterGuarantee (d : Deployment) (K F : World → Prop) (n i : ℕ) (o : Op) (w w' : World) : Prop :=
  if i < n then Guarantee d K (fun _ => True) o w w' else Guarantee d K F o w w'

theorem laterGuarantee_of_lt {K F : World → Prop} {n i : ℕ} {o : Op} {w w' : World} (hi : i < n)
    (h : Guarantee d K (fun _ => True) o w w') : LaterGuarantee d K F n i o w w' := by
  rw [LaterGuarantee, if_pos hi]
  exact h

theorem laterGuarantee_of_le {K F : World → Prop} {n i : ℕ} {o : Op} {w w' : World} (hi : n ≤ i)
    (h : Guarantee d K F o w w') : LaterGuarantee d K F n i o w w' := by
  rw [LaterGuarantee, if_neg (Nat.not_lt.mpr hi)]
  exact h

theorem LaterGuarantee.effect {K F : World → Prop} {n i : ℕ} {o : Op} {w w' : World}
    (h : LaterGuarantee d K F n i o w w') : SubmissionEffect d w.operations w'.operations := by
  unfold LaterGuarantee at h
  split_ifs at h <;> exact h.effect

/-- A property of the operations store that holds in `x` may be added to the protocol of the runs
from `x` on. -/
theorem holds_later {F : World → Prop} (hF : Stable F) (hops : w₀.operations = .empty)
    (hinvocations : w₀.invocations = []) (hcalls : ∀ t ∈ y.threads, t.call.coordinates = true)
    (hx : (system d).Reachable w₀ x) (hFx : F x.state) (h : (system d).Steps x y) :
    (protocol d (Pinned w₀) F none).Holds ((system d).guarded fun _ _ w => Pinned w₀ w)
      (fun i _ => LaterGuarantee d (Pinned w₀) F x.threads.length i) (fun _ => anyEnd) y := by
  have hcallsx : ∀ t ∈ x.threads, t.call.coordinates = true := by
    intro t ht
    obtain ⟨t', ht', heq⟩ := (system d).call_mem_of_steps h ⟨t, ht, rfl⟩
    exact heq ▸ hcalls t' ht'
  obtain ⟨-, hpin, hthreads⟩ := steps_pinned ⟨rfl, rfl⟩ (by simp) hcallsx hx
  obtain ⟨hsteps, -, -⟩ := steps_pinned hpin hthreads hcalls h
  obtain ⟨hinv, tok, hsum, hsafe⟩ := holds_of_coordinates hops hinvocations hcallsx
    (fun t _ => t.call.tracked_none) hx
  have hstart : (protocol d (Pinned w₀) F none).Holds
      ((system d).guarded fun _ _ w => Pinned w₀ w)
      (fun i _ => LaterGuarantee d (Pinned w₀) F x.threads.length i) (fun _ => anyEnd) x := by
    refine ⟨⟨hFx, hinv.2⟩, tok, hsum, fun i t hi => ?_⟩
    have hlt : i < x.threads.length := (List.getElem?_eq_some_iff.mp hi).1
    refine Safe.mono (G := Guarantee d (Pinned w₀) fun _ => True) (Q := anyEnd) ?_
      (fun _ _ _ h => h) (Safe.strengthen (F := F) ?_ ?_ ?_ ?_ (hsafe i t hi))
    · exact fun o s s' hg => laterGuarantee_of_lt hlt hg
    · exact fun s => ⟨fun hi => ⟨⟨trivial, hi.2⟩, hi.1⟩, fun hi => ⟨hi.2, hi.1.2⟩⟩
    · exact fun _ _ h => h
    · exact fun _ => rfl
    · exact fun o s s' hg hFs => hF s s' hFs hg.effect.evolves
  refine (System.holds_of_steps (A := fun _ => True) (fun _ _ _ _ _ hg => hg.effect.evolves) hstart
    (fun i c s hi _ hinv' => ?_) (fun _ _ => trivial) hsteps).1
  have hbody : Respects d (fun _ w => Pinned w₀ w) (Pinned w₀) F none anyEnd (c.body d) 0 s :=
    respects_body hF (fun _ _ w (h : Pinned w₀ w) => h) c c.tracked_none s hinv'
  exact Safe.mono (fun _ _ _ hg => laterGuarantee_of_le hi hg) (fun _ _ _ h => h) hbody

/-- A dispatch that starts when the submission is final does not call the adapter for it. -/
theorem no_submit_of_final (hops : w₀.operations = .empty) (hinvocations : w₀.invocations = [])
    (hcalls : ∀ t ∈ y.threads, t.call.coordinates = true) (hx : (system d).Reachable w₀ x)
    {rttId : String} (hfinal : x.state.submissionFinal rttId) (h : (system d).Steps x y) {i : ℕ}
    (hi : x.threads.length ≤ i) {c : Call} {adapter : ProviderAdapter}
    {request : ProviderExecutionRequest}
    (hp : (system d).Performs i c (.invokeAdapter adapter request) y z) :
    request.rttId ≠ rttId := by
  have hholds := holds_later (stable_submissionFinal rttId) hops hinvocations hcalls hx hfinal h
  have hpin := (steps_pinned ⟨rfl, rfl⟩ (by simp) hcalls (hx.trans h)).2.1
  obtain ⟨k, r, hget, hsem, ht⟩ := hp
  have hg := (System.holds_of_performs (fun _ _ _ _ _ hg => hg.effect.evolves) hholds
    ⟨k, r, hget, ⟨hpin, hsem⟩, ht⟩).2
  rw [LaterGuarantee, if_neg (Nat.not_lt.mpr hi)] at hg
  rcases hg.invocations with heq | ⟨_, _, heq, -, -, w, ⟨s, hs, hsfinal⟩, t, ht, htopen⟩
  · exfalso
    have hlen := congrArg List.length heq
    obtain ⟨-, hw⟩ := hsem
    rw [hw] at hlen
    simp at hlen
  · cases heq
    rintro rfl
    rw [hs, Option.some.injEq] at ht
    subst ht
    rw [hsfinal] at htopen
    cases htopen

end Operations

/-- In every run of the coordinator and of the relay: an RTT that is dispatched only with adapters
that do not support idempotency is submitted at most once; all calls of adapters for one RTT carry
one request; and from a configuration in which a submission is final, no call that starts later
calls an adapter for it. -/
theorem submitted_once {d : Deployment} (hcf : CollisionFree d.rt) {w₀ : World}
    (hops : w₀.operations = .empty) (hinvocations : w₀.invocations = [])
    {x : Config Op.Resp Call Exn Reply World} (hx : (system d).Reachable w₀ x)
    (hcalls : ∀ t ∈ x.threads, t.call.coordinates = true) :
    (∀ rttId, (∀ t ∈ x.threads, t.call.dispatchesPlainly rttId = true) →
      x.state.submitsOf rttId ≤ 1) ∧
    (∀ p ∈ x.state.invocations, ∀ q ∈ x.state.invocations,
      strip p.2.rttId = strip q.2.rttId → p.2 = q.2) ∧
    ∀ rttId, x.state.submissionFinal rttId → ∀ y z i c adapter request, (system d).Steps x y →
      (∀ t ∈ y.threads, t.call.coordinates = true) → x.threads.length ≤ i →
      (system d).Performs i c (.invokeAdapter adapter request) y z → request.rttId ≠ rttId := by
  refine ⟨fun rttId hplain => ?_, fun p hp q hq h => ?_, fun rttId hfinal y z i c adapter request
    hsteps hcallsy hi hp => ?_⟩
  · exact Operations.submitsOf_le_one hops hinvocations hcalls hx hplain
  · have hjust := Operations.justified_of_reachable hops hinvocations hcalls hx
    exact Operations.request_eq hcf (hjust p hp) (hjust q hq) h
  · exact Operations.no_submit_of_final hops hinvocations hcallsy hx hfinal hsteps hi hp

/-! ## A run of the sample -/

/-- In the sample, three workers submit the attempt at most once. -/
theorem submitted_once_sample :
    (Sample.execute Sample.exactDeployment (Sample.inFlightWorld Sample.exactRuntime) Sample.takeover).state.submitsOf
      "RTT-1" ≤ 1 := by
  have hcalls : ∀ t ∈ (Sample.execute Sample.exactDeployment (Sample.inFlightWorld Sample.exactRuntime)
      Sample.takeover).threads, t.call = .dispatch "RTT-1" (.plain "MPESA" false) (.aware 0) := by
    intro t ht
    simpa [Sample.takeover, Sample.perform] using Sample.call_mem_execute ht
  refine (submitted_once Sample.collisionFree_exactRuntime rfl rfl
    (Sample.reachable_execute _ _ _) fun t ht => ?_).1 "RTT-1" fun t ht => ?_
  · rw [hcalls t ht]
    rfl
  · rw [hcalls t ht]
    rfl

end RailOne
