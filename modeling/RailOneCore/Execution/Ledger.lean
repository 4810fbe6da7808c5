import RailOneCore.Execution.Models

/-!
# A plan and its attempts

What a plan says about its attempts must agree with the attempts themselves: the pointer to the
attempt in flight, the counter, the status and the successful route.  `ExecutionPlan.Agrees` states
this for a plan and the list of its attempts in the order of their start; the lemmas below show that
starting an attempt and closing the one in flight keep the agreement.

Identifiers are compared up to trimming, because a plan that awaits reconciliation keeps the
identifier of its attempt as the caller wrote it.
-/

namespace RailOne

/-- Two records of one attempt: everything that is fixed at birth coincides. -/
structure SameAttempt (a b : RttAttemptRecord) : Prop where
  rttId : b.rttId = a.rttId
  uttId : b.uttId = a.uttId
  planId : b.planId = a.planId
  attemptNumber : b.attemptNumber = a.attemptNumber
  routeId : b.routeId = a.routeId
  signedRtt : b.signedRtt = a.signedRtt

namespace SameAttempt

theorem refl (a : RttAttemptRecord) : SameAttempt a a := ⟨rfl, rfl, rfl, rfl, rfl, rfl⟩

theorem trans {a b c : RttAttemptRecord} (h : SameAttempt a b) (h' : SameAttempt b c) :
    SameAttempt a c :=
  ⟨h'.rttId.trans h.rttId, h'.uttId.trans h.uttId, h'.planId.trans h.planId,
    h'.attemptNumber.trans h.attemptNumber, h'.routeId.trans h.routeId,
    h'.signedRtt.trans h.signedRtt⟩

theorem symm {a b : RttAttemptRecord} (h : SameAttempt a b) : SameAttempt b a :=
  ⟨h.rttId.symm, h.uttId.symm, h.planId.symm, h.attemptNumber.symm, h.routeId.symm,
    h.signedRtt.symm⟩

end SameAttempt

/-- The plan agrees with its attempts. -/
structure ExecutionPlan.Agrees (p : ExecutionPlan) (as : List RttAttemptRecord) : Prop where
  ids : (as.map RttAttemptRecord.rttId).Nodup
  /-- The attempts are numbered `1, …, attempts_used`. -/
  numbers : as.map RttAttemptRecord.attemptNumber = List.range' 1 p.attemptsUsed
  limit : p.attemptsUsed = 0 ∨ p.attemptsUsed ≤ p.maxAttempts
  lineage : ∀ a ∈ as, a.uttId = p.uttId
  /-- The open attempt is the one in flight. -/
  inFlight : ∀ a ∈ as, a.state.isOpen = true ↔ ∃ c, p.currentRttId = some c ∧ strip c = a.rttId
  current : ∀ c, p.currentRttId = some c → ∃ a ∈ as, a.rttId = strip c
  awaiting : p.status = .reconciliationRequired ↔ ∃ a ∈ as, a.state = .reconciliationRequired
  finalized : p.status = .finalized ↔ ∃ a ∈ as, a.state = .succeeded
  successful : ∀ a ∈ as, a.state = .succeeded → p.successfulRouteId = some a.routeId
  once : ∀ a ∈ as, ∀ b ∈ as, a.state = .succeeded → b.state = .succeeded → a.rttId = b.rttId
  terminal : p.status.isTerminal = true → p.currentRttId = none

/-- What a commit that closes or parks the attempt in flight makes of plan and attempt. -/
inductive Closes (p : ExecutionPlan) (a : RttAttemptRecord) : Prop
  | parked (c : String) (hc : p.currentRttId = some c) (hid : strip c = a.rttId)
      (hs : p.status = .reconciliationRequired) (ha : a.state = .reconciliationRequired)
  | failed (hc : p.currentRttId = none) (hs : p.status ≠ .reconciliationRequired)
      (hf : p.status ≠ .finalized) (ha : a.state = .failed)
  | succeeded (hc : p.currentRttId = none) (hs : p.status = .finalized)
      (hr : p.successfulRouteId = some a.routeId) (ha : a.state = .succeeded)

namespace ExecutionPlan.Agrees

variable {p p' : ExecutionPlan} {as l₁ l₂ : List RttAttemptRecord} {a a' : RttAttemptRecord}

/-- At most one attempt is open: it is the one in flight. -/
theorem eq_of_open (h : p.Agrees as) (ha : a ∈ as) (ha' : a' ∈ as) (ho : a.state.isOpen = true)
    (ho' : a'.state.isOpen = true) : a = a' := by
  obtain ⟨c, hc, hid⟩ := (h.inFlight a ha).mp ho
  obtain ⟨c', hc', hid'⟩ := (h.inFlight a' ha').mp ho'
  rw [hc] at hc'
  cases hc'
  exact List.inj_on_of_nodup_map h.ids ha ha' (hid.symm.trans hid')

/-- While an attempt is in flight no attempt has succeeded. -/
theorem not_succeeded (h : p.Agrees as) (hc : p.currentRttId ≠ none) (ha : a ∈ as) :
    a.state ≠ .succeeded := by
  intro hs
  have hf := h.finalized.mpr ⟨a, ha, hs⟩
  exact hc (h.terminal (by rw [hf]; rfl))

/-- A plan without attempts. -/
theorem of_new (hu : p.attemptsUsed = 0) (hc : p.currentRttId = none) (hs : p.status = .active) :
    p.Agrees [] where
  ids := List.nodup_nil
  numbers := by rw [hu]; rfl
  limit := .inl hu
  lineage := by simp
  inFlight := by simp
  current := by simp [hc]
  awaiting := by simp [hs]
  finalized := by simp [hs]
  successful := by simp
  once := by simp
  terminal := by simp [hs, PlanStatus.isTerminal]

/-- Starting an attempt of an active plan with nothing in flight. -/
theorem start (h : p.Agrees as) (hstatus : p.status = .active) (hidle : p.currentRttId = none)
    (hlimit : p.attemptsUsed < p.maxAttempts) (hfresh : ∀ b ∈ as, b.rttId ≠ a.rttId)
    (hstrip : strip a.rttId = a.rttId) (hnum : a.attemptNumber = p.attemptsUsed + 1)
    (hutt : a.uttId = p.uttId) (hstate : a.state = .created)
    (hused' : p'.attemptsUsed = p.attemptsUsed + 1) (hmax' : p'.maxAttempts = p.maxAttempts)
    (hutt' : p'.uttId = p.uttId) (hcur' : p'.currentRttId = some a.rttId)
    (hstatus' : p'.status = .active) : p'.Agrees (as ++ [a]) := by
  have hopen : ∀ b ∈ as, b.state.isOpen = false := by
    intro b hb
    by_contra ho
    obtain ⟨c, hc, -⟩ := (h.inFlight b hb).mp (by simpa using ho)
    rw [hidle] at hc
    cases hc
  have hnorec : ∀ b ∈ as, b.state ≠ .reconciliationRequired := fun b hb hs => by
    have := hopen b hb
    rw [hs] at this
    cases this
  have hnosucc : ∀ b ∈ as, b.state ≠ .succeeded := fun b hb hs => by
    have := h.finalized.mpr ⟨b, hb, hs⟩
    rw [hstatus] at this
    cases this
  have hmem : ∀ {b}, b ∈ as ++ [a] → b ∈ as ∨ b = a := fun hb => by
    simpa using hb
  refine ⟨?_, ?_, ?_, ?_, ?_, ?_, ?_, ?_, ?_, ?_, ?_⟩
  · rw [List.map_append, List.nodup_append]
    refine ⟨h.ids, by simp, ?_⟩
    intro x hx y hy
    obtain ⟨b, hb, rfl⟩ := List.mem_map.mp hx
    simp only [List.map_cons, List.map_nil, List.mem_singleton] at hy
    exact hy ▸ hfresh b hb
  · rw [List.map_append, h.numbers, hused', List.range'_concat]
    simp [hnum, Nat.add_comm]
  · right
    rw [hused', hmax']
    push_cast
    omega
  · intro b hb
    rcases hmem hb with hb | rfl
    · exact (h.lineage b hb).trans hutt'.symm
    · exact hutt.trans hutt'.symm
  · intro b hb
    rw [hcur']
    rcases hmem hb with hb | rfl
    · rw [hopen b hb]
      simp only [Bool.false_eq_true, Option.some.injEq, exists_eq_left', false_iff]
      exact fun heq => hfresh b hb (heq.symm.trans hstrip)
    · simp [hstate, AttemptState.isOpen, hstrip]
  · intro c hc
    rw [hcur'] at hc
    cases hc
    exact ⟨a, by simp, hstrip.symm⟩
  · rw [hstatus']
    simp only [reduceCtorEq, false_iff, not_exists, not_and]
    intro b hb
    rcases hmem hb with hb | rfl
    · exact hnorec b hb
    · simp [hstate]
  · rw [hstatus']
    simp only [reduceCtorEq, false_iff, not_exists, not_and]
    intro b hb
    rcases hmem hb with hb | rfl
    · exact hnosucc b hb
    · simp [hstate]
  · intro b hb hs
    rcases hmem hb with hb | rfl
    · exact absurd hs (hnosucc b hb)
    · rw [hstate] at hs
      cases hs
  · intro b hb b' _ hs
    rcases hmem hb with hb | rfl
    · exact absurd hs (hnosucc b hb)
    · rw [hstate] at hs
      cases hs
  · intro ht
    rw [hstatus'] at ht
    cases ht

/-- Closing or parking the attempt in flight. -/
theorem close (h : p.Agrees (l₁ ++ a :: l₂)) (hcur : p.currentRttId = some a.rttId)
    (hstrip : strip a.rttId = a.rttId) (hsame : SameAttempt a a')
    (hused' : p'.attemptsUsed = p.attemptsUsed) (hmax' : p'.maxAttempts = p.maxAttempts)
    (hutt' : p'.uttId = p.uttId) (hcloses : Closes p' a') : p'.Agrees (l₁ ++ a' :: l₂) := by
  have hamem : a ∈ l₁ ++ a :: l₂ := by simp
  have hold : ∀ {b}, b ∈ l₁ ∨ b ∈ l₂ → b ∈ l₁ ++ a :: l₂ := fun hb => by
    simpa using hb.imp_right .inr
  -- the other attempts are closed, have another identifier and have not succeeded
  have hother : ∀ {b}, b ∈ l₁ ∨ b ∈ l₂ → b.rttId ≠ a.rttId := by
    intro b hb heq
    have hnd := h.ids
    rw [List.map_append, List.map_cons, List.nodup_append] at hnd
    rcases hb with hb | hb
    · exact hnd.2.2 b.rttId (List.mem_map_of_mem hb) a.rttId (by simp) heq
    · exact (List.nodup_cons.mp hnd.2.1).1 (heq ▸ List.mem_map_of_mem hb)
  have hclosed : ∀ {b}, b ∈ l₁ ∨ b ∈ l₂ → b.state.isOpen = false := by
    intro b hb
    by_contra ho
    obtain ⟨c, hc, hid⟩ := (h.inFlight b (hold hb)).mp (by simpa using ho)
    rw [hcur] at hc
    cases hc
    exact hother hb (hid.symm.trans hstrip)
  have hnosucc : ∀ {b}, b ∈ l₁ ∨ b ∈ l₂ → b.state ≠ .succeeded := fun hb =>
    h.not_succeeded (by simp [hcur]) (hold hb)
  have hnorec : ∀ {b}, b ∈ l₁ ∨ b ∈ l₂ → b.state ≠ .reconciliationRequired := fun hb hs => by
    have := hclosed hb
    rw [hs] at this
    cases this
  have hmem : ∀ {b}, b ∈ l₁ ++ a' :: l₂ → (b ∈ l₁ ∨ b ∈ l₂) ∨ b = a' := fun hb => by
    simp only [List.mem_append, List.mem_cons] at hb
    tauto
  have ha'mem : a' ∈ l₁ ++ a' :: l₂ := by simp
  have hids : (l₁ ++ a' :: l₂).map RttAttemptRecord.rttId =
      (l₁ ++ a :: l₂).map RttAttemptRecord.rttId := by
    simp [hsame.rttId]
  refine ⟨?_, ?_, ?_, ?_, ?_, ?_, ?_, ?_, ?_, ?_, ?_⟩
  · rw [hids]
    exact h.ids
  · have hnums : (l₁ ++ a' :: l₂).map RttAttemptRecord.attemptNumber =
        (l₁ ++ a :: l₂).map RttAttemptRecord.attemptNumber := by
      simp [hsame.attemptNumber]
    rw [hnums, hused']
    exact h.numbers
  · rw [hused', hmax']
    exact h.limit
  · intro b hb
    rw [hutt']
    rcases hmem hb with hb | rfl
    · exact h.lineage b (hold hb)
    · exact hsame.uttId.trans (h.lineage a hamem)
  · intro b hb
    rcases hmem hb with hb | rfl
    · rw [hclosed hb]
      simp only [Bool.false_eq_true, false_iff, not_exists, not_and]
      intro c hc hid
      cases hcloses with
      | parked c' hc' hid' =>
        rw [hc'] at hc
        cases hc
        exact hother hb (hid.symm.trans (hid'.trans hsame.rttId))
      | failed hnone | succeeded hnone =>
        rw [hnone] at hc
        cases hc
    · cases hcloses with
      | parked c hc hid hs ha => simp [hc, hid, ha, AttemptState.isOpen]
      | failed hnone _ _ ha => simp [hnone, ha, AttemptState.isOpen]
      | succeeded hnone _ _ ha => simp [hnone, ha, AttemptState.isOpen]
  · intro c hc
    cases hcloses with
    | parked c' hc' hid' =>
      rw [hc'] at hc
      cases hc
      exact ⟨a', ha'mem, hid'.symm⟩
    | failed hnone | succeeded hnone =>
      rw [hnone] at hc
      cases hc
  · cases hcloses with
    | parked c hc hid hs ha => exact ⟨fun _ => ⟨a', ha'mem, ha⟩, fun _ => hs⟩
    | failed hnone hs _ ha =>
      refine ⟨fun h' => absurd h' hs, fun ⟨b, hb, hbs⟩ => ?_⟩
      rcases hmem hb with hb | rfl
      · exact absurd hbs (hnorec hb)
      · rw [ha] at hbs
        cases hbs
    | succeeded hnone hs _ ha =>
      refine ⟨fun h' => (by rw [hs] at h'; cases h'), fun ⟨b, hb, hbs⟩ => ?_⟩
      rcases hmem hb with hb | rfl
      · exact absurd hbs (hnorec hb)
      · rw [ha] at hbs
        cases hbs
  · cases hcloses with
    | parked c hc hid hs ha =>
      refine ⟨fun h' => (by rw [hs] at h'; cases h'), fun ⟨b, hb, hbs⟩ => ?_⟩
      rcases hmem hb with hb | rfl
      · exact absurd hbs (hnosucc hb)
      · rw [ha] at hbs
        cases hbs
    | failed hnone _ hf ha =>
      refine ⟨fun h' => absurd h' hf, fun ⟨b, hb, hbs⟩ => ?_⟩
      rcases hmem hb with hb | rfl
      · exact absurd hbs (hnosucc hb)
      · rw [ha] at hbs
        cases hbs
    | succeeded hnone hs _ ha => exact ⟨fun _ => ⟨a', ha'mem, ha⟩, fun _ => hs⟩
  · intro b hb hbs
    rcases hmem hb with hb | rfl
    · exact absurd hbs (hnosucc hb)
    · cases hcloses with
      | parked _ _ _ _ ha | failed _ _ _ ha =>
        rw [ha] at hbs
        cases hbs
      | succeeded _ _ hr _ => exact hr
  · intro b hb b' hb' hbs hbs'
    rcases hmem hb with hb | rfl
    · exact absurd hbs (hnosucc hb)
    · rcases hmem hb' with hb' | rfl
      · exact absurd hbs' (hnosucc hb')
      · rfl
  · intro ht
    cases hcloses with
    | parked _ _ _ hs =>
      rw [hs] at ht
      cases ht
    | failed hnone | succeeded hnone => exact hnone

end ExecutionPlan.Agrees

end RailOne
