import RailOneCore.Operations.Lifecycle

/-!
# The coordinator and the relay respect the life of submissions

Every call of the coordinator and of the relay, whatever other calls do between its steps, has only
the effects that `SubmissionEffect` lists, and calls an adapter only for a submission that it has
itself moved to `DISPATCHING`.

The statements have three parameters.  `K` is a property of the worlds in which `prepare` reads, `F`
a property of the operations store that may be added to the invariant later, and `track` selects one RTT whose calls of the adapter are counted: each move of its submission to
`DISPATCHING` is a permission to call the adapter once.
-/

namespace RailOne

open Concurrent Ordered

namespace Operations

open ProviderSubmissionCoordinator

/-! ## Counting the calls of the adapter -/

/-- Whether the submission of an RTT has left the prepared state. -/
def dispatched (st : OperationsStore) (rttId : String) : Bool :=
  match st.submissionsByRtt.get? rttId with
  | some s => s.state != .prepared
  | none => false

/-- How often the adapter has been called for an RTT. -/
def invocationsOf (w : World) (rttId : String) : ℕ :=
  w.invocations.countP fun p => p.2.rttId == rttId

/-- The permissions for the tracked RTT that have not been used. -/
def permissions (track : Option String) (w : World) : ℕ :=
  match track with
  | none => 0
  | some r => (if dispatched w.operations r then 1 else 0) - invocationsOf w r

/-- The permission that a call for `rttId` obtains by moving the submission to `DISPATCHING`. -/
def permission (track : Option String) (rttId : String) : ℕ := if track = some rttId then 1 else 0

/-! ## The protocol -/

section Definitions

variable (d : Deployment) (K F : World → Prop) (track : Option String)

/-- How a request came about: what `prepare` read in worlds of the run. -/
structure Prepared (request : ProviderExecutionRequest) : Prop where
  reads : ∃ wa wp wu : World, K wa ∧ K wp ∧ K wu ∧ ∃ attempt plan signedUtt,
    wa.executions.attempts.get? (strip request.rttId) = some attempt ∧
    attempt.state = .created ∧
    wp.executions.plans.get? attempt.planId = some plan ∧
    plan.currentRttId = some request.rttId ∧
    wu.contracts.utts.get? attempt.uttId = some signedUtt ∧
    ∃ draft payerReference beneficiaryReference,
      requestDraft d request.rttId attempt signedUtt = .ok draft ∧
      draft.resolved d payerReference beneficiaryReference = .ok request

/-- The adapter may be called with the request: its submission has left the prepared state and is a
submission of this very request. -/
def Justified (w : World) (request : ProviderExecutionRequest) : Prop :=
  Prepared d K request ∧ ∃ s, w.operations.submissionsByRtt.get? request.rttId = some s ∧
    s.state ≠ .prepared ∧ s.requestSha256 = request.requestSha256

/-- What the calls agree on about submissions. -/
def protocol : Protocol World where
  Inv w := F w ∧ w.operations.Consistent d ∧ (∀ p ∈ w.invocations, Justified d K w p.2) ∧
    ∀ r, track = some r → invocationsOf w r ≤ if dispatched w.operations r then 1 else 0
  Rely w w' := w.operations.Evolves w'.operations
  avail := permissions track
  rely_refl w := .refl w.operations
  rely_trans _ _ _ h h' := h.trans h'

/-- What a call guarantees. -/
structure Guarantee (o : Op) (w w' : World) : Prop where
  effect : SubmissionEffect d w.operations w'.operations
  /-- The adapter is called only with a justified request, whose submission the call found
  unfinished. -/
  invocations : w'.invocations = w.invocations ∨ ∃ adapter request,
    o = .invokeAdapter adapter request ∧ w'.invocations = w.invocations ++ [(adapter, request)] ∧
    Justified d K w request ∧ ∃ w₀, F w₀ ∧ ∃ s,
      w₀.operations.submissionsByRtt.get? request.rttId = some s ∧ s.state.isFinal = false

end Definitions

variable {d : Deployment} {guard : Op → World → Prop} {K F : World → Prop}
  {track : Option String} {α β : Type} {w : World}

theorem Justified.evolves {w w' : World} {request : ProviderExecutionRequest}
    (h : Justified d K w request) (he : w.operations.Evolves w'.operations) :
    Justified d K w' request := by
  obtain ⟨hp, s, hs, hne, hsha⟩ := h
  obtain ⟨t, ht, hst, -, -, -, hprep⟩ := he.submission hs
  exact ⟨hp, t, ht, hprep hne, hst.requestSha256.trans hsha⟩

/-- What the operations store goes through keeps `F`. -/
def Stable (F : World → Prop) : Prop :=
  ∀ w w', F w → w.operations.Evolves w'.operations → F w'

theorem stable_true : Stable fun _ => True := fun _ _ _ _ => trivial

/-- A step that is neither on submissions nor a call of an adapter. -/
def quietOp (o : Op) : Prop := o.part ≠ .operations ∧ o.part ≠ .invocations

/-- Steps that write neither submissions nor calls of adapters disturb nothing. -/
theorem quiet (hF : Stable F) {o : Op} {w w' : World} {r : o.Resp} (ho : quietOp o)
    (hinv : (protocol d K F track).Inv w) (h : guardedSem d.rt guard o w r w') :
    (protocol d K F track).Inv w' ∧ (protocol d K F track).Rely w w' ∧ Guarantee d K F o w w' ∧
      (protocol d K F track).avail w' = (protocol d K F track).avail w := by
  have hframe := World.frame_of_sem h.2
  have hops := hframe.operations ho.1
  have hcalls := hframe.invocations ho.2
  have hrely : w.operations.Evolves w'.operations := by
    rw [hops]
    exact .refl _
  obtain ⟨hFw, hcons, hjust, hcount⟩ := hinv
  refine ⟨⟨hF w w' hFw hrely, ?_, ?_, ?_⟩, hrely, ⟨?_, .inl hcalls⟩, ?_⟩
  · rw [hops]
    exact hcons
  · rw [hcalls]
    exact fun p hp => (hjust p hp).evolves hrely
  · intro r hr
    rw [invocationsOf, hcalls, hops]
    exact hcount r hr
  · rw [hops]
    exact .unchanged
  · simp only [protocol, permissions, invocationsOf, hcalls, hops]

/-! ## Rules -/

/-- A program respects the protocol and ends in `Q`. -/
def Respects (d : Deployment) (guard : Op → World → Prop) (K F : World → Prop)
    (track : Option String) (Q : ℕ → Except Exn α → World → Prop) (p : Code α) (n : ℕ)
    (w : World) : Prop :=
  Safe (protocol d K F track) (guardedSem d.rt guard) (Guarantee d K F) Q p n w

/-- No condition on how a program ends. -/
def anyEnd (_ : ℕ) (_ : Except Exn α) (_ : World) : Prop := True

/-- The program ends without a permission. -/
def idleEnd (n : ℕ) (_ : Except Exn α) (_ : World) : Prop := n = 0

theorem rely_of_guarantee {o : Op} {w w' : World} (h : Guarantee d K F o w w') :
    (protocol d K F track).Rely w w' := h.effect.evolves

section Rules

variable {Q : ℕ → Except Exn α → World → Prop}

theorem Respects.lift {x : Except Exn β} {f : β → Code α} {n : ℕ}
    (hf : ∀ a, x = .ok a → Respects d guard K F track Q (f a) n w)
    (herr : ∀ e w', Q n (.error e) w') : Respects d guard K F track Q (.ret x >>= f) n w :=
  Safe.lift hf fun e _ => safe_ret.mpr fun w' _ _ => herr e w'

theorem Respects.skip (hF : Stable F) {p : Code β} {f : β → Code α} (hp : p.Ops quietOp)
    (hinv : (protocol d K F track).Inv w)
    (hf : ∀ a w', w.operations.Evolves w'.operations → (protocol d K F track).Inv w' →
      Respects d guard K F track Q (f a) 0 w')
    (herr : ∀ e w', Q 0 (.error e) w') : Respects d guard K F track Q (p >>= f) 0 w :=
  Safe.bind_of_ops (fun _ _ _ _ ho hi h => quiet hF ho hi h) hp hinv hf
    fun e w' _ _ => herr e w'

/-- `_event` yields an event that announces the record. -/
theorem respects_event (hF : Stable F) (s : ProviderSubmissionRecord) (idempotent : Bool)
    (at_ : Instant) :
    Respects d guard K F track
      (fun n r _ => n = 0 ∧ ∀ row, r = .ok row → row.event.Announces d.rt s idempotent at_)
      (event d s idempotent at_) 0 w := by
  unfold event
  refine Respects.lift (fun eventId hid => ?_) fun _ _ => ⟨rfl, fun _ h => nomatch h⟩
  refine Safe.call (o := Op.sign _ _ _ _) fun s₁ h₁ hi _ r s₂ hs => ?_
  obtain ⟨hi₂, -, hg, hav⟩ := quiet (o := Op.sign _ _ _ _) hF ⟨nofun, nofun⟩ hi hs
  refine ⟨hi₂, hg, 0, by rw [hav], ?_, ?_⟩
  · rintro signed rfl
    refine safe_ret.mpr fun _ _ _ => ⟨rfl, ?_⟩
    rintro row hrow
    cases hrow
    exact ⟨rfl, rfl, hid, (SignatureService.signArtifact_eq_ok (sem_sign_ok.mp hs.2).1).1⟩
  · rintro e rfl
    exact safe_ret.mpr fun _ _ _ => ⟨rfl, fun _ h => nomatch h⟩

end Rules

section Reads

variable {Q : ℕ → Except Exn α → World → Prop}

theorem Respects.requireAttempt {key : String} {f : RttAttemptRecord → Code α} (hF : Stable F)
    (hf : ∀ a w', (protocol d K F track).Inv w' → guard (.requireAttempt key) w' →
      w'.executions.attempts.get? key = some a →
      Respects d guard K F track Q (f a) 0 w') (herr : ∀ e w', Q 0 (.error e) w') :
    Respects d guard K F track Q (Code.requireAttempt key >>= f) 0 w := by
  refine Safe.call (o := Op.requireAttempt key) fun w₁ _ hi _ r w₂ hs => ?_
  obtain ⟨hi₂, -, hg, hav⟩ := quiet (o := Op.requireAttempt _) hF ⟨nofun, nofun⟩ hi hs
  refine ⟨hi₂, hg, 0, by rw [hav], ?_, fun e _ => safe_ret.mpr fun w' _ _ => herr e w'⟩
  rintro a rfl
  obtain ⟨ha, rfl⟩ := sem_requireAttempt.mp hs.2
  exact hf a w₂ hi hs.1 (ExecutionStore.requireAttempt_eq_ok.mp ha.symm)

theorem Respects.requirePlan {id : String} {f : ExecutionPlan → Code α} (hF : Stable F)
    (hf : ∀ p w', (protocol d K F track).Inv w' → guard (.requirePlan id) w' →
      w'.executions.plans.get? id = some p →
      Respects d guard K F track Q (f p) 0 w') (herr : ∀ e w', Q 0 (.error e) w') :
    Respects d guard K F track Q (Code.requirePlan id >>= f) 0 w := by
  refine Safe.call (o := Op.requirePlan id) fun w₁ _ hi _ r w₂ hs => ?_
  obtain ⟨hi₂, -, hg, hav⟩ := quiet (o := Op.requirePlan _) hF ⟨nofun, nofun⟩ hi hs
  refine ⟨hi₂, hg, 0, by rw [hav], ?_, fun e _ => safe_ret.mpr fun w' _ _ => herr e w'⟩
  rintro p rfl
  obtain ⟨hp, rfl⟩ := sem_requirePlan.mp hs.2
  exact hf p w₂ hi hs.1 (ExecutionStore.requirePlan_eq_ok.mp hp.symm)

theorem Respects.requireUtt {id : String} {f : SignatureEnvelope → Code α} (hF : Stable F)
    (hf : ∀ e w', (protocol d K F track).Inv w' → guard (.requireUtt id) w' →
      w'.contracts.utts.get? id = some e →
      Respects d guard K F track Q (f e) 0 w') (herr : ∀ e w', Q 0 (.error e) w') :
    Respects d guard K F track Q (Code.requireUtt id >>= f) 0 w := by
  refine Safe.call (o := Op.requireUtt id) fun w₁ _ hi _ r w₂ hs => ?_
  obtain ⟨hi₂, -, hg, hav⟩ := quiet (o := Op.requireUtt _) hF ⟨nofun, nofun⟩ hi hs
  refine ⟨hi₂, hg, 0, by rw [hav], ?_, fun e _ => safe_ret.mpr fun w' _ _ => herr e w'⟩
  rintro e rfl
  obtain ⟨he, rfl⟩ := sem_requireUtt.mp hs.2
  exact hf e w₂ hi hs.1 (ContractStore.requireUtt_eq_ok.mp he.symm)

end Reads

/-! ## Commits -/

/-- What a committed transition does, when the record that it starts from was in the store before. -/
theorem effect_of_transition {st₀ st st' : OperationsStore} {s t : ProviderSubmissionRecord}
    {row : OutboxRecord} {idempotent : Bool} {at_ : Instant} {u : Unit}
    (hs : st₀.submissionsByRtt.get? s.rttId = some s) (hst₀ : st₀.Evolves st)
    (hst : st.transition s.version t row = .ok (u, st')) (hsame : SameSubmission s t)
    (hmove : SubmissionMove s.state t.state) (hshape : t.Shape)
    (hannounces : row.event.Announces d.rt t idempotent at_) :
    SubmissionEffect d st st' ∧ st.submissionsByRtt.get? t.rttId = some s ∧
      st'.submissionsByRtt = st.submissionsByRtt.set t.rttId t := by
  obtain ⟨⟨current, hcurrent, hver⟩, hversion, hrow, rfl⟩ := OperationsStore.transition_eq_ok hst
  obtain ⟨s', hs', -, -, heq, -⟩ := hst₀.submission hs
  rw [hsame.rttId, hs', Option.some.injEq] at hcurrent
  subst hcurrent
  rw [heq hver, ← hsame.rttId] at hs'
  exact ⟨.moved s t row idempotent at_ hs' hsame hversion hmove hshape hrow hannounces, hs', rfl⟩

theorem dispatched_of_evolves {st st' : OperationsStore} {r : String} (h : st.Evolves st')
    (hd : dispatched st r = true) : dispatched st' r = true := by
  unfold dispatched at hd
  split at hd
  · next s hs =>
    obtain ⟨t, ht, -, -, -, -, hprep⟩ := h.submission hs
    simp only [dispatched, ht]
    simpa using hprep (by simpa using hd)
  · cases hd

/-- A commit on the operations store keeps the invariant. -/
theorem inv_of_effect (hF : Stable F) {st : OperationsStore}
    (hinv : (protocol d K F track).Inv w) (heff : SubmissionEffect d w.operations st) :
    (protocol d K F track).Inv { w with operations := st } := by
  obtain ⟨hFw, hcons, hjust, hcount⟩ := hinv
  refine ⟨hF w _ hFw heff.evolves, heff.consistent hcons, ?_, ?_⟩
  · exact fun p hp => (hjust p hp).evolves heff.evolves
  · intro r hr
    refine (hcount r hr).trans ?_
    by_cases hd : dispatched w.operations r = true
    · rw [if_pos hd, if_pos (dispatched_of_evolves heff.evolves hd)]
    · rw [if_neg hd]
      exact Nat.zero_le _

/-- A move of a submission that was dispatched before hands out no permission. -/
theorem permissions_of_moved {st : OperationsStore} {s t : ProviderSubmissionRecord}
    (hs : w.operations.submissionsByRtt.get? t.rttId = some s)
    (hst : st.submissionsByRtt = w.operations.submissionsByRtt.set t.rttId t)
    (ht : t.state ≠ .prepared) (h : track = some t.rttId → s.state ≠ .prepared) :
    permissions track { w with operations := st } = permissions track w := by
  unfold permissions
  cases track with
  | none => rfl
  | some r =>
    have hd : dispatched st r = dispatched w.operations r := by
      unfold dispatched
      rw [hst, Dict.get?_set]
      by_cases hr : r = t.rttId
      · subst hr
        simp [hs, bne_iff_ne.mpr ht, bne_iff_ne.mpr (h rfl)]
      · rw [if_neg hr]
    simp only [hd]
    rfl

/-- Preparing a submission hands out no permission. -/
theorem permissions_of_prepared {st : OperationsStore} {s : ProviderSubmissionRecord}
    (hfresh : w.operations.submissionsByRtt.get? s.rttId = none)
    (hst : st.submissionsByRtt = w.operations.submissionsByRtt.set s.rttId s)
    (hs : s.state = .prepared) :
    permissions track { w with operations := st } = permissions track w := by
  unfold permissions
  cases track with
  | none => rfl
  | some r =>
    have hd : dispatched st r = dispatched w.operations r := by
      unfold dispatched
      rw [hst, Dict.get?_set]
      by_cases hr : r = s.rttId
      · subst hr
        simp [hfresh, hs]
      · rw [if_neg hr]
    simp only [hd]
    rfl

/-- The first move of a tracked submission hands out one permission. -/
theorem permissions_of_dispatched {st : OperationsStore} {s t : ProviderSubmissionRecord}
    (hinv : (protocol d K F track).Inv w) (htrack : track = some t.rttId)
    (hs : w.operations.submissionsByRtt.get? t.rttId = some s) (hprep : s.state = .prepared)
    (hst : st.submissionsByRtt = w.operations.submissionsByRtt.set t.rttId t)
    (ht : t.state ≠ .prepared) :
    permissions track w = 0 ∧ permissions track { w with operations := st } = 1 := by
  have hcount := hinv.2.2.2 t.rttId htrack
  have hold : dispatched w.operations t.rttId = false := by simp [dispatched, hs, hprep]
  have hnew : dispatched st t.rttId = true := by simp [dispatched, hst, ht]
  rw [hold] at hcount
  subst htrack
  simp only [permissions, hold, hnew]
  have heq : invocationsOf { w with operations := st } t.rttId = invocationsOf w t.rttId := rfl
  rw [heq]
  simp only [Bool.false_eq_true, if_false, if_true] at hcount ⊢
  omega

/-! ## Completion -/

/-- `_complete` moves the submission to its final state, or does nothing. -/
theorem respects_complete (hF : Stable F) {record : ProviderSubmissionRecord}
    {result : ProviderSubmissionResult} {at_ : Instant} {st₀ : OperationsStore}
    (hinv : (protocol d K F track).Inv w)
    (hrecord : st₀.submissionsByRtt.get? record.rttId = some record)
    (hst₀ : st₀.Evolves w.operations) (hstate : record.state = .dispatching)
    (hshape : record.Shape) :
    Respects d guard K F track anyEnd (complete d record result at_) 0 w := by
  unfold complete
  refine Respects.lift (fun code _ => ?_) fun _ _ => trivial
  refine Respects.lift (fun context _ => ?_) fun _ _ => trivial
  refine Respects.lift (fun _ hdisp => ?_) fun _ _ => trivial
  refine Safe.bind (fun _ _ _ => rely_of_guarantee) (respects_event hF _ _ _) hinv ?_
    fun _ _ _ _ _ _ => trivial
  rintro n row w₁ hw₁ hi₁ ⟨rfl, hann⟩
  refine Safe.call (o := Op.transitionSubmission _ _ _) fun w₂ hw₂ hi₂ _ r w₃ hs => ?_
  have hc := sem_transitionSubmission.mp hs.2
  unfold Commits at hc
  split at hc
  · next u st hst =>
    obtain ⟨rfl, rfl⟩ := hc
    have hfinal : result.outcome.state.isFinal = true := by cases result.outcome <;> rfl
    obtain ⟨heff, hold, hnew⟩ := effect_of_transition hrecord ((hst₀.trans hw₁).trans hw₂) hst
      ⟨rfl, rfl, rfl, rfl, rfl, rfl⟩ (hstate ▸ .complete hfinal)
      (hshape.completed hstate hdisp _ _ _) (hann row rfl)
    refine ⟨inv_of_effect hF hi₂ heff, ⟨heff, .inl rfl⟩, 0, ?_, fun _ _ => safe_ret.mpr
      fun _ _ _ => trivial, fun _ _ => safe_ret.mpr fun _ _ _ => trivial⟩
    refine congrArg (· + 0) (permissions_of_moved hold hnew ?_ fun _ => by simp [hstate]).symm
    intro hp
    rw [show result.outcome.state = _ from hp] at hfinal
    cases hfinal
  · obtain ⟨rfl, rfl⟩ := hc
    exact ⟨hi₂, ⟨.unchanged, .inl rfl⟩, 0, rfl, fun _ _ => safe_ret.mpr fun _ _ _ => trivial,
      fun _ _ => safe_ret.mpr fun _ _ _ => trivial⟩

/-! ## Sending -/

theorem ops_bridgeSubmit (descriptor : AdapterDescriptor) (request : ProviderExecutionRequest) :
    (bridgeSubmit descriptor request).Ops quietOp := by
  unfold bridgeSubmit
  refine Prog.Ops.bind (Prog.ops_ret _) fun _ => Prog.Ops.bind (Prog.ops_ret _) fun _ => ?_
  refine Prog.Ops.bind (ops_call.mpr ⟨nofun, nofun⟩) fun _ => ?_
  exact Prog.Ops.bind (ops_call.mpr ⟨nofun, nofun⟩) fun _ => Prog.ops_ret _

/-- The rest of `adapter.submit` after the call. -/
def answer (adapter : ProviderAdapter) (request : ProviderExecutionRequest) :
    Code ProviderSubmissionResult :=
  match adapter with
  | .plain .. => call (.adapterAnswer adapter request)
  | .bridge descriptor _ => bridgeSubmit descriptor request

theorem ops_answer (adapter : ProviderAdapter) (request : ProviderExecutionRequest) :
    (answer adapter request).Ops quietOp := by
  cases adapter with
  | plain => exact ops_call.mpr ⟨nofun, nofun⟩
  | bridge descriptor _ => exact ops_bridgeSubmit descriptor request

/-- `send` moves the submission to `DISPATCHING` and only then calls the adapter, once. -/
theorem respects_send (hF : Stable F) {record : ProviderSubmissionRecord}
    {request : ProviderExecutionRequest} {adapter : ProviderAdapter} {at_ : Instant} {w₀ : World}
    (hinv : (protocol d K F track).Inv w) (hF₀ : F w₀)
    (hrecord : w₀.operations.submissionsByRtt.get? record.rttId = some record)
    (hw₀ : w₀.operations.Evolves w.operations) (hstate : record.state.isFinal = false)
    (hshape : record.Shape) (hprep : track = some record.rttId → record.state = .prepared)
    (hrtt : request.rttId = record.rttId) (hsha : record.requestSha256 = request.requestSha256)
    (hrequest : Prepared d K request) :
    Respects d guard K F track anyEnd (send d record request adapter at_) 0 w := by
  unfold send
  refine Safe.bind (fun _ _ _ => rely_of_guarantee) (respects_event hF _ _ _) hinv ?_
    fun _ _ _ _ _ _ => trivial
  rintro n row w₁ hw₁ hi₁ ⟨rfl, hann⟩
  refine Safe.call (o := Op.transitionSubmission _ _ _) fun w₂ hw₂ hi₂ _ r w₃ hs => ?_
  have hc := sem_transitionSubmission.mp hs.2
  unfold Commits at hc
  split at hc
  · next u st hst =>
    obtain ⟨rfl, rfl⟩ := hc
    obtain ⟨heff, hold, hnew⟩ := effect_of_transition hrecord ((hw₀.trans hw₁).trans hw₂) hst
      ⟨rfl, rfl, rfl, rfl, rfl, rfl⟩ (.dispatch hstate) (hshape.dispatching' hstate at_)
      (hann row rfl)
    refine ⟨inv_of_effect hF hi₂ heff, ⟨heff, .inl rfl⟩, permission track record.rttId, ?_,
      fun _ _ => ?_, nofun⟩
    · change permissions track w₂ + _ = permissions track { w₂ with operations := st } + 0
      unfold permission
      split_ifs with htrack
      · obtain ⟨hzero, hone⟩ := permissions_of_dispatched (t := dispatching record at_) hi₂ htrack
          hold (hprep htrack) hnew nofun
        rw [hzero, hone]
      · rw [permissions_of_moved (t := dispatching record at_) hold hnew nofun
          fun h => absurd h htrack]
    · -- the call of the adapter uses the permission up
      have hstored : st.submissionsByRtt.get? record.rttId = some (dispatching record at_) := by
        rw [hnew]
        exact Dict.get?_set_self _ _ _
      refine safe_op.mpr fun w₄ hw₄ hi₄ hn r w₅ hs₄ => ?_
      obtain ⟨rfl, rfl⟩ : r = .ok () ∧
          w₅ = { w₄ with invocations := w₄.invocations ++ [(adapter, request)] } := hs₄.2
      obtain ⟨t, ht, hsame, -, -, -, hnp⟩ := hw₄.submission hstored
      have hjust : Justified d K w₄ request :=
        ⟨hrequest, t, hrtt ▸ ht, hnp nofun, hsame.requestSha256.trans hsha⟩
      have hcount : ∀ r, invocationsOf { w₄ with
          invocations := w₄.invocations ++ [(adapter, request)] } r =
          invocationsOf w₄ r + if record.rttId = r then 1 else 0 := by
        intro r
        simp only [invocationsOf, List.countP_append, List.countP_cons, List.countP_nil, hrtt,
          beq_iff_eq, Nat.zero_add]
      have hdisp : dispatched w₄.operations record.rttId = true := by
        simpa [dispatched, ht] using hnp nofun
      have hle : ∀ r, track = some r → invocationsOf w₄ r + (if record.rttId = r then 1 else 0) ≤
          if dispatched w₄.operations r then 1 else 0 := by
        intro r hr
        have hold := hi₄.2.2.2 r hr
        by_cases heq : record.rttId = r
        · subst heq
          change permission track record.rttId ≤ permissions track w₄ at hn
          simp only [permission, permissions, hr, hdisp, if_true] at hn ⊢
          omega
        · rw [if_neg heq]
          exact hold
      have hi₅ : (protocol d K F track).Inv
          { w₄ with invocations := w₄.invocations ++ [(adapter, request)] } := by
        refine ⟨hF _ _ hi₄.1 (.refl _), hi₄.2.1, ?_, fun r hr => hcount r ▸ hle r hr⟩
        intro p hp
        rcases List.mem_append.mp hp with hp | hp
        · exact (hi₄.2.2.1 p hp).evolves (.refl _)
        · rw [List.mem_singleton] at hp
          subst hp
          exact hjust.evolves (.refl _)
      refine ⟨hi₅, ⟨.unchanged, ?_⟩, 0, ?_, ?_⟩
      · exact .inr ⟨adapter, request, rfl, rfl, hjust, w₀, hF₀, record, hrtt ▸ hrecord, hstate⟩
      · change permissions track w₄ + 0 = permissions track _ + permission track record.rttId
        cases track with
        | none => simp [permissions, permission]
        | some r =>
          have hle := hle r rfl
          simp only [permissions, permission, hcount, Option.some.injEq]
          by_cases heq : record.rttId = r
          · subst heq
            simp only [hdisp, if_true] at hle ⊢
            omega
          · simp only [heq, Ne.symm heq, if_false]
            omega
      · refine Respects.skip hF (Prog.Ops.outcome (ops_answer adapter request)) hi₅ ?_
          fun _ _ => trivial
        intro answer w₆ hw₆ hi₆
        exact respects_complete hF hi₆ hstored (hw₄.trans hw₆) rfl
          (hshape.dispatching' hstate at_)
  · obtain ⟨rfl, rfl⟩ := hc
    exact ⟨hi₂, ⟨.unchanged, .inl rfl⟩, 0, rfl, nofun, fun _ _ => safe_ret.mpr
      fun _ _ _ => trivial⟩

/-! ## Preparation -/

/-- How `prepare` for `rttId` ends: with the stored submission of the request that it built. -/
def preparedEnd (d : Deployment) (K F : World → Prop) (rttId : String) (n : ℕ)
    (r : Except Exn (ProviderSubmissionRecord × ProviderExecutionRequest)) (w : World) : Prop :=
  n = 0 ∧ ∀ stored request, r = .ok (stored, request) →
    (∃ w₀, F w₀ ∧ w₀.operations.submissionsByRtt.get? rttId = some stored ∧
      w₀.operations.Evolves w.operations) ∧ stored.Shape ∧ stored.rttId = rttId ∧
    request.rttId = rttId ∧ stored.requestSha256 = request.requestSha256 ∧ Prepared d K request

/-- `prepare` stores at most a new submission and ends with the stored one. -/
theorem respects_prepare (hF : Stable F) (hK : ∀ o w, guard o w → K w) (rttId : String)
    (at_ : Datetime) : Respects d guard K F track (preparedEnd d K F rttId) (prepare d rttId at_) 0 w := by
  have herr : ∀ e w', preparedEnd d K F rttId 0 (.error e) w' := fun _ _ =>
    ⟨rfl, by rintro _ _ ⟨⟩⟩
  unfold prepare
  refine Respects.lift (fun instant _ => Respects.lift (fun key hkey => ?_) herr) herr
  obtain ⟨rfl, -⟩ := requireText_eq_ok.mp hkey
  refine Respects.requireAttempt hF (fun attempt wa hia hga hattempt => ?_) herr
  refine Respects.lift (fun _ hcreated => ?_) herr
  refine Respects.requirePlan hF (fun plan wp hip hgp hplan => ?_) herr
  refine Respects.lift (fun _ hcurrent => ?_) herr
  refine Respects.skip hF (ops_requireValid ⟨by rintro ⟨⟩, by rintro ⟨⟩⟩) hip (fun _ w₁ _ hi₁ => ?_) herr
  refine Respects.requireUtt hF (fun signedUtt wu hiu hgu hutt => ?_) herr
  refine Respects.skip hF (ops_requireValid ⟨by rintro ⟨⟩, by rintro ⟨⟩⟩) hiu (fun _ w₂ _ hi₂ => ?_) herr
  refine Respects.lift (fun draft hdraft => ?_) herr
  refine Respects.skip hF (ops_call.mpr ⟨by rintro ⟨⟩, by rintro ⟨⟩⟩) hi₂ (fun payerRef w₃ _ hi₃ => ?_) herr
  refine Respects.skip hF (ops_call.mpr ⟨by rintro ⟨⟩, by rintro ⟨⟩⟩) hi₃ (fun benRef w₄ _ hi₄ => ?_) herr
  refine Respects.lift (fun request hrequest => ?_) herr
  refine Respects.lift (fun submissionId hid => ?_) herr
  have hrtt : request.rttId = rttId := by
    rw [(RequestDraft.resolved_eq_ok hrequest).1]
    exact (requestDraft_eq_ok hdraft).rttId
  have hprepared : Prepared d K request := by
    refine ⟨wa, wp, wu, hK _ _ hga, hK _ _ hgp, hK _ _ hgu, attempt, plan, signedUtt, ?_⟩
    rw [hrtt]
    exact ⟨hattempt, require_eq_ok.mp hcreated, hplan, require_eq_ok.mp hcurrent, hutt, draft,
      payerRef, benRef, hdraft, hrequest⟩
  refine Safe.bind (fun _ _ _ => rely_of_guarantee) (respects_event hF _ _ _) hi₄ ?_
    fun n e w' _ _ h => h.1 ▸ herr e w'
  rintro n row w₅ hw₅ hi₅ ⟨rfl, hann⟩
  refine Safe.call (o := Op.prepareSubmission _ _) fun w₆ hw₆ hi₆ _ r w₇ hs => ?_
  have hc := sem_prepareSubmission.mp hs.2
  unfold Commits at hc
  split at hc
  · next stored st hst =>
    obtain ⟨rfl, rfl⟩ := hc
    have hshape := ProviderSubmissionRecord.Shape.newSubmission submissionId request instant
    obtain ⟨heff, hstored, hperm⟩ : SubmissionEffect d w₆.operations st ∧
        st.submissionsByRtt.get? rttId = some stored ∧
        permissions track { w₆ with operations := st } = permissions track w₆ := by
      rcases OperationsStore.prepare_eq_ok hst with ⟨rfl, hget, -⟩ | ⟨rfl, hfresh, hkey, hrow, rfl⟩
      · exact ⟨.unchanged, hrtt ▸ hget, rfl⟩
      · refine ⟨.prepared _ row instant hfresh hkey hrow rfl hshape ?_ (hann row rfl), ?_, ?_⟩
        · change submissionIdOf d request.rttId request.requestSha256 = _
          rw [hrtt]
          exact hid
        · rw [← hrtt]
          exact Dict.get?_set_self _ _ _
        · exact permissions_of_prepared hfresh rfl rfl
    have hi₇ := inv_of_effect hF hi₆ heff
    refine ⟨hi₇, ⟨heff, .inl rfl⟩, 0, ?_, ?_, by rintro _ ⟨⟩⟩
    · exact congrArg (· + 0) hperm.symm
    · rintro _ ⟨⟩
      refine Respects.lift (fun _ hsha => safe_ret.mpr fun w₈ hw₈ _ => ⟨rfl, ?_⟩) herr
      rintro _ _ ⟨⟩
      exact ⟨⟨_, hi₇.1, hstored, hw₈⟩, hi₇.2.1.shape hstored, hi₇.2.1.key hstored, hrtt,
        require_eq_ok.mp hsha, hprepared⟩
  · obtain ⟨rfl, rfl⟩ := hc
    exact ⟨hi₆, ⟨.unchanged, .inl rfl⟩, 0, rfl, by rintro _ ⟨⟩, fun e _ => safe_ret.mpr
      fun w' _ _ => herr e w'⟩

/-- `dispatch` respects the life of submissions.  Calls for the tracked RTT must come with an adapter
that does not support idempotency. -/
theorem respects_dispatch (hF : Stable F) (hK : ∀ o w, guard o w → K w) (rttId : String)
    (adapter : ProviderAdapter) (at_ : Datetime)
    (htrack : track = some rttId → adapter.supportsIdempotency = false)
    (hinv : (protocol d K F track).Inv w) :
    Respects d guard K F track anyEnd (dispatch d rttId adapter at_) 0 w := by
  unfold dispatch
  refine Respects.lift (fun instant _ => ?_) fun _ _ => trivial
  refine Safe.bind (fun _ _ _ => rely_of_guarantee) (respects_prepare hF hK rttId _) hinv ?_
    fun _ _ _ _ _ _ => trivial
  rintro n ⟨stored, request⟩ w₁ hw₁ hi₁ ⟨rfl, hend⟩
  obtain ⟨⟨w₀, hF₀, hstored, hw₀⟩, hshape, hkey, hrtt, hsha, hprepared⟩ := hend _ _ rfl
  refine Respects.lift (fun _ _ => ?_) fun _ _ => trivial
  split_ifs with hfinal hrecover
  · exact safe_ret.mpr fun _ _ _ => trivial
  · exact respects_complete hF hi₁ (hkey.symm ▸ hstored) hw₀ hrecover.1 hshape
  · refine respects_send hF hi₁ hF₀ (hkey.symm ▸ hstored) hw₀ (by simpa using hfinal) hshape ?_
      (hrtt.trans hkey.symm) hsha hprepared
    intro ht
    rw [hkey] at ht
    cases hst : stored.state with
    | prepared => rfl
    | dispatching => exact absurd ⟨hst, by simp [htrack ht]⟩ hrecover
    | accepted | rejected | unknown =>
      rw [hst] at hfinal
      exact absurd rfl hfinal

/-! ## The relay -/

/-- A step of the relay: its commits only rewrite the bookkeeping of events. -/
theorem Respects.relay (hF : Stable F) {o : Op} {x : World → Except Exn (o.Ret × OperationsStore)}
    {f : o.Ret → Code α} (hsem : ∀ w r w', World.sem d.rt o w r w' ↔
      Commits (x w) (fun st => { w with operations := st }) w r w')
    (hx : ∀ w' a st, w'.operations.Consistent d → x w' = .ok (a, st) →
      ∃ outbox, st = { w'.operations with outbox := outbox } ∧
        SubmissionEffect d w'.operations st)
    (hf : ∀ a w', (protocol d K F track).Inv w' → Respects d guard K F track idleEnd (f a) 0 w') :
    Respects d guard K F track idleEnd (call o >>= f) 0 w := by
  refine Safe.call fun w₁ hw₁ hi₁ _ r w₂ hs => ?_
  have hc := (hsem _ _ _).mp hs.2
  unfold Commits at hc
  split at hc
  · next a st hst =>
    obtain ⟨rfl, rfl⟩ := hc
    obtain ⟨outbox, rfl, heff⟩ := hx w₁ a st hi₁.2.1 hst
    have hi₂ := inv_of_effect hF hi₁ heff
    refine ⟨hi₂, ⟨heff, .inl rfl⟩, 0, rfl, ?_, nofun⟩
    rintro _ ⟨⟩
    exact hf a _ hi₂
  · obtain ⟨rfl, rfl⟩ := hc
    exact ⟨hi₁, ⟨.unchanged, .inl rfl⟩, 0, rfl, nofun, fun _ _ => safe_ret.mpr fun _ _ _ => rfl⟩

theorem relays_claimOutbox {st st' : OperationsStore} {workerId : String} {at_ : Instant}
    {leaseSeconds limit : Int} {rows : List OutboxRecord} (hst : st.Consistent d)
    (h : st.claimOutbox workerId at_ leaseSeconds limit = .ok (rows, st')) :
    ∃ outbox, st' = { st with outbox := outbox } ∧ SubmissionEffect d st st' := by
  unfold OperationsStore.claimOutbox at h
  split_ifs at h
  cases h
  refine ⟨_, rfl, .relayed _ (SubmissionEffect.relayed_claimRows ?_)⟩
  intro row hrow
  have hmem := List.mem_of_mem_take hrow
  rw [List.mem_insertionSort, List.mem_filter] at hmem
  obtain ⟨k, hk⟩ := Dict.mem_values.mp hmem.1
  exact ⟨row, (hst.eventKey hk).symm ▸ hk, rfl⟩

theorem relays_markPublished {st st' : OperationsStore} {eventId workerId : String} {at_ : Instant}
    {row : OutboxRecord} (h : st.markPublished eventId workerId at_ = .ok (row, st')) :
    ∃ outbox, st' = { st with outbox := outbox } ∧ SubmissionEffect d st st' := by
  simp only [OperationsStore.markPublished, bind_eq_ok, pure_eq_ok, Prod.mk.injEq] at h
  obtain ⟨old, hold, -, rfl⟩ := h
  exact ⟨_, rfl, SubmissionEffect.relayed_set (OperationsStore.requireOwnedEvent_eq_ok hold) rfl⟩

theorem relays_reschedule {st st' : OperationsStore} {eventId workerId error : String}
    {at_ availableAt : Instant} {maxAttempts : Int} {row : OutboxRecord}
    (h : st.reschedule eventId workerId at_ availableAt error maxAttempts = .ok (row, st')) :
    ∃ outbox, st' = { st with outbox := outbox } ∧ SubmissionEffect d st st' := by
  unfold OperationsStore.reschedule at h
  split_ifs at h
  simp only [bind_eq_ok, pure_eq_ok, Prod.mk.injEq] at h
  obtain ⟨old, hold, -, rfl⟩ := h
  exact ⟨_, rfl, SubmissionEffect.relayed_set (OperationsStore.requireOwnedEvent_eq_ok hold) rfl⟩

theorem respects_publishOne (hF : Stable F) (relay : OutboxRelay) (instant : Instant)
    (row : OutboxRecord) (hinv : (protocol d K F track).Inv w) :
    Respects d guard K F track idleEnd (relay.publishOne instant row) 0 w := by
  unfold OutboxRelay.publishOne
  refine Respects.skip hF (Prog.Ops.outcome (ops_call.mpr ⟨nofun, nofun⟩)) hinv
    (fun sent w₁ _ hi₁ => ?_) fun _ _ => rfl
  cases sent with
  | ok _ =>
    change Respects d guard K F track idleEnd (Code.markPublished _ _ _) 0 w₁
    rw [← Prog.bind_ret (Code.markPublished _ _ _)]
    exact Respects.relay hF (fun _ _ _ => sem_markPublished)
      (fun _ _ _ _ h => relays_markPublished h) fun _ _ _ => safe_ret.mpr fun _ _ _ => rfl
  | error exn =>
    change Respects d guard K F track idleEnd (Code.reschedule _ _ _ _ _ _) 0 w₁
    rw [← Prog.bind_ret (Code.reschedule _ _ _ _ _ _)]
    exact Respects.relay hF (fun _ _ _ => sem_reschedule)
      (fun _ _ _ _ h => relays_reschedule h) fun _ _ _ => safe_ret.mpr fun _ _ _ => rfl

theorem respects_publishAll (hF : Stable F) (relay : OutboxRelay) (instant : Instant)
    (rows : List OutboxRecord) (hinv : (protocol d K F track).Inv w) :
    Respects d guard K F track idleEnd (relay.publishAll instant rows) 0 w := by
  induction rows generalizing w with
  | nil => exact safe_ret.mpr fun _ _ _ => rfl
  | cons row rows ih =>
    refine Safe.bind (fun _ _ _ => rely_of_guarantee) (respects_publishOne hF relay instant row hinv)
      hinv ?_ fun _ _ _ _ _ h => h
    rintro n outcome w₁ - hi₁ rfl
    refine Safe.bind (fun _ _ _ => rely_of_guarantee) (ih hi₁) hi₁ ?_ fun _ _ _ _ _ h => h
    rintro n rest w₂ - - rfl
    exact safe_ret.mpr fun _ _ _ => rfl

/-- `publish_batch` only rewrites the bookkeeping of events. -/
theorem respects_publishBatch (hF : Stable F) (relay : OutboxRelay) (limit : Int) (at_ : Datetime) :
    Respects d guard K F track idleEnd (relay.publishBatch limit at_) 0 w := by
  unfold OutboxRelay.publishBatch
  refine Respects.lift (fun instant _ => ?_) fun _ _ => rfl
  exact Respects.relay hF (fun _ _ _ => sem_claimOutbox) (fun _ _ _ hst h => relays_claimOutbox hst h)
    fun rows w' hi' => respects_publishAll hF relay instant rows hi'

end Operations

end RailOne
