import RailOneCore.Notifications.Service
import RailOneCore.Platform.Calls

/-!
# A message is sent once

Any number of workers deliver notifications, in any interleaving and with crashes anywhere.  The
right to send is a permission: it comes into being when a worker moves the notification from prepared
to dispatching, and the call of the gateway uses it up.  A worker that finds a notification being
dispatched closes it as unknown, which leaves the permission with the worker that has it.

The runs are logged, because what the gateway has been asked and has answered is not in the store.
-/

namespace RailOne

open Concurrent Ordered

/-- No worker leaves these states. -/
def SmsDeliveryState.isFinal : SmsDeliveryState → Bool
  | .sent | .rejected | .unknown => true
  | .prepared | .dispatching => false

/-- Notifications are stored under their identifiers. -/
def SettlementStore.Keyed (st : SettlementStore) : Prop :=
  ∀ id row, st.notifications.get? id = some row → row.notificationId = id

/-- A call of `deliver`. -/
structure Delivery where
  notificationId : String
  at_ : Instant

/-- Any number of deliveries over one world. -/
def relaySystem (d : Deployment) : System Op.Resp Delivery Exn SmsNotificationRecord World where
  body c := SmsOutboxRelay.deliver d c.notificationId c.at_
  sem _ := World.sem d.rt

/-- The operation calls the gateway with the given key. -/
def Op.sendsFor (id : String) : Op → Bool
  | .sendSms key _ _ => key == id
  | _ => false

/-- The log of a run. -/
abbrev SmsLog := List (System.Entry Op.Resp Delivery)

/-- How often the gateway has been called for a notification. -/
def sendsOf (id : String) (log : SmsLog) : ℕ := log.countP fun e => e.op.sendsFor id

/-- The gateway has accepted the notification. -/
def AcceptedIn (id : String) (log : SmsLog) : Prop :=
  ∃ c destination body result, ⟨c, .sendSms id destination body, .ok result⟩ ∈ log ∧
    result.accepted = true

namespace Relay

/-- What becomes of a stored notification. -/
structure Evolves (row row' : SmsNotificationRecord) : Prop where
  version : row.version ≤ row'.version
  same : row'.version = row.version → row' = row
  body : row'.renderedBody = row.renderedBody
  final : row.state.isFinal = true → row' = row
  started : row.state ≠ .prepared → row'.state ≠ .prepared

theorem Evolves.refl (row : SmsNotificationRecord) : Evolves row row :=
  ⟨le_rfl, fun _ => rfl, rfl, fun _ => rfl, fun h => h⟩

theorem Evolves.trans {a b c : SmsNotificationRecord} (h : Evolves a b) (h' : Evolves b c) :
    Evolves a c where
  version := h.version.trans h'.version
  same heq := by
    have hab := h.version
    have hbc := h'.version
    have hb : b = a := h.same (by omega)
    have hc : c = b := h'.same (by omega)
    rw [hc, hb]
  body := h'.body.trans h.body
  final ha := by
    have hb : b = a := h.final ha
    rw [← hb] at ha ⊢
    exact h'.final ha
  started ha := h'.started (h.started ha)

/-- What the log says about the calls of the gateway for one notification. -/
structure Recorded (id body : String) (state : SmsDeliveryState) (log : SmsLog) : Prop where
  once : sendsOf id log ≤ 1
  prepared : state = .prepared → sendsOf id log = 0
  sent : state = .sent → AcceptedIn id log
  bodies : ∀ e ∈ log, ∀ destination text, e.op = .sendSms id destination text → text = body

/-- The invariant, for one notification with a given body. -/
structure Invariant (id body : String) (s : World × SmsLog) : Prop where
  keyed : s.1.settlements.Keyed
  keys : ∀ e ∈ s.2, ∀ key destination text, e.op = .sendSms key destination text →
    key = e.call.notificationId
  row : ∃ row, s.1.settlements.notifications.get? id = some row ∧ row.renderedBody = body ∧
    Recorded id body row.state s.2

/-- Whether a worker may call the gateway for the notification. -/
def permissions (id : String) (s : World × SmsLog) : ℕ :=
  match s.1.settlements.notifications.get? id with
  | some row => if row.state ≠ .prepared ∧ sendsOf id s.2 = 0 then 1 else 0
  | none => 0

/-- What the deliveries agree on about one notification. -/
def protocol (id body : String) : Protocol (World × SmsLog) where
  Inv := Invariant id body
  Rely s s' := (∀ row, s.1.settlements.notifications.get? id = some row →
    ∃ row', s'.1.settlements.notifications.get? id = some row' ∧ Evolves row row') ∧ s.2 <+: s'.2
  avail := permissions id
  rely_refl s := ⟨fun row hrow => ⟨row, hrow, .refl row⟩, List.prefix_rfl⟩
  rely_trans s₁ s₂ s₃ h h' := by
    refine ⟨fun row hrow => ?_, h.2.trans h'.2⟩
    obtain ⟨row₂, hrow₂, he₂⟩ := h.1 row hrow
    obtain ⟨row₃, hrow₃, he₃⟩ := h'.1 row₂ hrow₂
    exact ⟨row₃, hrow₃, he₂.trans he₃⟩

/-- The notification was stored as `record` at some earlier time. -/
def Known (id body : String) (record : SmsNotificationRecord) (s : World × SmsLog) : Prop :=
  ∃ s₀, (protocol id body).Rely s₀ s ∧ s₀.1.settlements.notifications.get? id = some record

theorem Known.of_get {id : String} (body : String) {record : SmsNotificationRecord}
    {s : World × SmsLog} (h : s.1.settlements.notifications.get? id = some record) :
    Known id body record s :=
  ⟨s, (protocol id body).rely_refl s, h⟩

theorem Known.rely {id body : String} {record : SmsNotificationRecord} {s s' : World × SmsLog}
    (h : Known id body record s) (hs : (protocol id body).Rely s s') : Known id body record s' := by
  obtain ⟨s₀, h₀, hget⟩ := h
  exact ⟨s₀, (protocol id body).rely_trans _ _ _ h₀ hs, hget⟩

/-! ## Steps -/

section Steps

variable {id body : String} {log : SmsLog} {e : System.Entry Op.Resp Delivery}

theorem sendsOf_append (log : SmsLog) (e : System.Entry Op.Resp Delivery) :
    sendsOf id (log ++ [e]) = sendsOf id log + if e.op.sendsFor id = true then 1 else 0 := by
  rw [sendsOf, List.countP_append, List.countP_singleton]
  rfl

theorem accepted_of_prefix {log' : SmsLog} (h : AcceptedIn id log) (hlog : log <+: log') :
    AcceptedIn id log' := by
  obtain ⟨c, destination, body, result, hmem, haccepted⟩ := h
  exact ⟨c, destination, body, result, hlog.subset hmem, haccepted⟩

/-- The operation does not call the gateway. -/
def Silent (o : Op) : Prop := ∀ key destination text, o ≠ .sendSms key destination text

/-- The entry uses the right key, if any, and does not call the gateway for the notification. -/
structure Aside (id : String) (e : System.Entry Op.Resp Delivery) : Prop where
  other : e.op.sendsFor id = false
  key : ∀ key destination text, e.op = .sendSms key destination text → key = e.call.notificationId

theorem Silent.aside (h : Silent e.op) : Aside id e := by
  refine ⟨?_, fun key destination text hop => absurd hop (h key destination text)⟩
  unfold Op.sendsFor
  split
  · next key destination text hop => exact absurd hop (h key destination text)
  · rfl

theorem Aside.sendsOf (h : Aside id e) : sendsOf id (log ++ [e]) = RailOne.sendsOf id log := by
  rw [sendsOf_append, h.other]
  rfl

/-- Such an entry leaves what the log says about the notification. -/
theorem Recorded.append {state : SmsDeliveryState} (h : Recorded id body state log)
    (he : Aside id e) : Recorded id body state (log ++ [e]) := by
  refine ⟨?_, ?_, ?_, ?_⟩
  · rw [he.sendsOf]
    exact h.once
  · rw [he.sendsOf]
    exact h.prepared
  · exact fun hs => accepted_of_prefix (h.sent hs) (List.prefix_append _ _)
  · intro e' he' destination text hop
    rcases List.mem_append.mp he' with he' | he'
    · exact h.bodies e' he' destination text hop
    · have hother := he.other
      rw [← List.mem_singleton.mp he', hop] at hother
      simp [Op.sendsFor] at hother

/-- The first call of the gateway for the notification. -/
theorem Recorded.send {state : SmsDeliveryState} (h : Recorded id body state log)
    (hstate : state ≠ .prepared) (hnone : sendsOf id log = 0) (c : Delivery) (destination : String)
    (r : Except Exn SmsGatewayResult) :
    sendsOf id (log ++ [⟨c, .sendSms id destination body, r⟩]) = 1 ∧
      Recorded id body state (log ++ [⟨c, .sendSms id destination body, r⟩]) := by
  have hone : sendsOf id (log ++ [⟨c, .sendSms id destination body, r⟩]) = 1 := by
    rw [sendsOf_append, hnone]
    simp [Op.sendsFor]
  refine ⟨hone, hone.le, fun hs => absurd hs hstate, ?_, ?_⟩
  · exact fun hs => accepted_of_prefix (h.sent hs) (List.prefix_append _ _)
  · intro e he destination' text hop
    rcases List.mem_append.mp he with he | he
    · exact h.bodies e he destination' text hop
    · rw [List.mem_singleton.mp he] at hop
      cases hop
      rfl

/-- The notification leaves the state prepared. -/
theorem Recorded.move {state state' : SmsDeliveryState} (h : Recorded id body state log)
    (hstate : state' ≠ .prepared) (hsent : state' = .sent → AcceptedIn id log) :
    Recorded id body state' log :=
  ⟨h.once, fun heq => absurd heq hstate, hsent, h.bodies⟩

theorem keys_append {log : SmsLog} {e : System.Entry Op.Resp Delivery}
    (h : ∀ e ∈ log, ∀ key destination text, e.op = .sendSms key destination text →
      key = e.call.notificationId)
    (he : ∀ key destination text, e.op = .sendSms key destination text →
      key = e.call.notificationId) :
    ∀ e' ∈ log ++ [e], ∀ key destination text, e'.op = .sendSms key destination text →
      key = e'.call.notificationId := by
  intro e' he'
  rcases List.mem_append.mp he' with he' | he'
  · exact h e' he'
  · rw [List.mem_singleton.mp he']
    exact he

variable {s s₁ s₂ : World × SmsLog}

/-- A step that leaves the notifications alone and does not call the gateway for this one. -/
theorem quiet (hinv : Invariant id body s) (he : Aside id e)
    (hstore : s₁.1.settlements = s.1.settlements) (hlog : s₁.2 = s.2 ++ [e]) :
    Invariant id body s₁ ∧ (protocol id body).Rely s s₁ ∧ permissions id s₁ = permissions id s := by
  obtain ⟨row, hrow, hbody, hrecorded⟩ := hinv.row
  have hcount : sendsOf id s₁.2 = sendsOf id s.2 := by
    rw [hlog, he.sendsOf]
  refine ⟨⟨?_, ?_, row, ?_, hbody, ?_⟩, ⟨?_, ?_⟩, ?_⟩
  · rw [hstore]
    exact hinv.keyed
  · rw [hlog]
    exact keys_append hinv.keys he.key
  · rw [hstore]
    exact hrow
  · rw [hlog]
    exact hrecorded.append he
  · rw [hstore]
    exact fun row hrow => ⟨row, hrow, .refl row⟩
  · rw [hlog]
    exact List.prefix_append _ _
  · simp only [permissions, hstore, hcount]

/-- What `deliver` stores over a record that it has read. -/
structure Moves (record updated : SmsNotificationRecord) : Prop where
  notificationId : updated.notificationId = record.notificationId
  version : updated.version = record.version + 1
  body : updated.renderedBody = record.renderedBody
  isOpen : record.state.isFinal = false
  started : updated.state ≠ .prepared

theorem Moves.evolves {record updated : SmsNotificationRecord} (h : Moves record updated) :
    Evolves record updated where
  version := by
    rw [h.version]
    omega
  same heq := by
    rw [h.version] at heq
    omega
  body := h.body
  final hfinal := by
    rw [h.isOpen] at hfinal
    cases hfinal
  started _ := h.started

theorem transitionNotification_eq_ok {st st' : SettlementStore} {v : ℕ}
    {updated : SmsNotificationRecord} {u : Unit}
    (h : st.transitionNotification v updated = .ok (u, st')) :
    (∃ current, st.notifications.get? updated.notificationId = some current ∧
        current.version = v) ∧
      st' = { st with notifications := st.notifications.set updated.notificationId updated } := by
  unfold SettlementStore.transitionNotification at h
  split at h
  · cases h
  · next current hcurrent =>
    split_ifs at h with hversion hnext
    cases h
    exact ⟨⟨current, hcurrent, not_not.mp hversion⟩, rfl⟩

theorem keyed_set {st : SettlementStore} (h : st.Keyed) {id : String}
    {updated : SmsNotificationRecord} (hid : updated.notificationId = id) :
    SettlementStore.Keyed { st with notifications := st.notifications.set id updated } := by
  intro id' row hrow
  change (st.notifications.set id updated).get? id' = some row at hrow
  rw [Dict.get?_set] at hrow
  split at hrow
  · next heq =>
    cases hrow
    exact hid.trans heq.symm
  · exact h id' row hrow

variable {record updated : SmsNotificationRecord}

/-- A transition of the notification that the call is about, as far as it succeeds.  The record that
was read is still the stored one, because the version is. -/
theorem transition_own (hread : Known id body record s₁) (hmoves : Moves record updated)
    (hsent : updated.state = .sent → AcceptedIn id s₁.2) (hinv : Invariant id body s₁)
    {st : SettlementStore}
    (hst : s₁.1.settlements.transitionNotification record.version updated = .ok ((), st))
    (hkey : record.notificationId = id) (hstore : s₂.1.settlements = st)
    (hlog : s₂.2 = s₁.2 ++ [e]) (he : Aside id e) :
    Invariant id body s₂ ∧ (protocol id body).Rely s₁ s₂ ∧
      s₂.1.settlements.notifications.get? id = some updated ∧
      permissions id s₂ = permissions id s₁ + if record.state = .prepared then 1 else 0 := by
  obtain ⟨⟨current, hcurrent, hversion⟩, rfl⟩ := transitionNotification_eq_ok hst
  have hid' : updated.notificationId = id := hmoves.notificationId.trans hkey
  rw [hid'] at hcurrent hstore
  obtain ⟨s₀, hrely, hget⟩ := hread
  obtain ⟨row, hrow, hevolves⟩ := hrely.1 record hget
  rw [hcurrent, Option.some.injEq] at hrow
  subst hrow
  rw [hevolves.same hversion] at hcurrent
  obtain ⟨row, hrow, hbody, hrecorded⟩ := hinv.row
  rw [hcurrent, Option.some.injEq] at hrow
  subst hrow
  have hnew : s₂.1.settlements.notifications.get? id = some updated := by
    rw [hstore]
    exact (Dict.get?_set ..).trans (if_pos rfl)
  have hcount : sendsOf id s₂.2 = sendsOf id s₁.2 := by
    rw [hlog, he.sendsOf]
  refine ⟨⟨?_, ?_, updated, hnew, hmoves.body.trans hbody, ?_⟩, ⟨?_, ?_⟩, hnew, ?_⟩
  · rw [hstore]
    exact keyed_set hinv.keyed hid'
  · rw [hlog]
    exact keys_append hinv.keys he.key
  · rw [hlog]
    refine (hrecorded.append he).move hmoves.started fun hs => ?_
    exact accepted_of_prefix (hsent hs) (List.prefix_append _ _)
  · intro row hrow
    rw [hcurrent, Option.some.injEq] at hrow
    subst hrow
    exact ⟨updated, hnew, hmoves.evolves⟩
  · rw [hlog]
    exact List.prefix_append _ _
  · simp only [permissions, hnew, hcurrent, hcount]
    by_cases hprepared : record.state = .prepared
    · have hzero := hrecorded.prepared hprepared
      simp [hprepared, hmoves.started, hzero]
    · simp [hprepared, hmoves.started]

/-- A transition of another notification. -/
theorem transition_other (hne : updated.notificationId ≠ id) (hinv : Invariant id body s₁) {v : ℕ}
    {st : SettlementStore} (hst : s₁.1.settlements.transitionNotification v updated = .ok ((), st))
    (hstore : s₂.1.settlements = st) (hlog : s₂.2 = s₁.2 ++ [e]) (he : Aside id e) :
    Invariant id body s₂ ∧ (protocol id body).Rely s₁ s₂ ∧
      permissions id s₂ = permissions id s₁ := by
  obtain ⟨-, rfl⟩ := transitionNotification_eq_ok hst
  have hget : s₂.1.settlements.notifications.get? id = s₁.1.settlements.notifications.get? id := by
    rw [hstore]
    exact (Dict.get?_set ..).trans (if_neg (Ne.symm hne))
  obtain ⟨row, hrow, hbody, hrecorded⟩ := hinv.row
  have hcount : sendsOf id s₂.2 = sendsOf id s₁.2 := by
    rw [hlog, he.sendsOf]
  refine ⟨⟨?_, ?_, row, hget.trans hrow, hbody, ?_⟩, ⟨?_, ?_⟩, ?_⟩
  · rw [hstore]
    exact keyed_set hinv.keyed rfl
  · rw [hlog]
    exact keys_append hinv.keys he.key
  · rw [hlog]
    exact hrecorded.append he
  · intro row hrow
    exact ⟨row, hget.trans hrow, .refl row⟩
  · rw [hlog]
    exact List.prefix_append _ _
  · simp only [permissions, hget, hcount]

end Steps

/-! ## Deliveries -/

/-- A program of the delivery `c`, holding `n` permissions, keeps what the deliveries agree on. -/
def Respects (d : Deployment) (id body : String) (c : Delivery) {α : Type} (p : Code α) (n : ℕ)
    (s : World × SmsLog) : Prop :=
  Safe (protocol id body) ((relaySystem d).logged.sem c) (fun _ => (protocol id body).Rely)
    (fun _ _ _ => True) p n s

section Rules

variable {d : Deployment} {id body : String} {c : Delivery} {α : Type} {n : ℕ}
  {s : World × SmsLog}

theorem Respects.ret (r : Except Exn α) : Respects d id body c (.ret r) n s :=
  safe_ret.mpr fun _ _ _ => trivial

/-- An operation that leaves the notifications alone and does not call the gateway. -/
theorem Respects.quiet {o : Op} {k : o.Resp → Code α} (ho : Silent o) (hpart : o.part ≠ .settlements)
    (hk : ∀ r s₁ s₂, (protocol id body).Rely s s₁ → Invariant id body s₁ →
      World.sem d.rt o s₁.1 r s₂.1 → s₂.1.settlements = s₁.1.settlements →
      (protocol id body).Rely s s₂ → Respects d id body c (k r) n s₂) :
    Respects d id body c (.op o k) n s := by
  refine safe_op.mpr fun s₁ h₁ hinv _ r s₂ hsem => ?_
  have hstore := (World.frame_of_sem hsem.1).settlements hpart
  obtain ⟨hinv', hrely, havail⟩ := Relay.quiet hinv (Silent.aside ho) hstore hsem.2
  refine ⟨hinv', hrely, n, ?_, ?_⟩
  · exact congrArg (· + n) havail.symm
  · exact hk r s₁ s₂ h₁ hinv hsem.1 hstore ((protocol id body).rely_trans _ _ _ h₁ hrely)

/-- A transition over a record that was read. -/
theorem Respects.transition {record updated : SmsNotificationRecord} {k : Unit → Code α}
    (hread : c.notificationId = id → Known id body record s)
    (hkey : record.notificationId = c.notificationId) (hmoves : Moves record updated)
    (hsent : c.notificationId = id → updated.state = .sent → AcceptedIn id s.2)
    (hk : ∀ s₂, (protocol id body).Rely s s₂ →
      (c.notificationId = id → Known id body updated s₂) →
      Respects d id body c (k ())
        (if c.notificationId = id ∧ record.state = .prepared then n + 1 else n) s₂) :
    Respects d id body c (Code.transitionNotification record.version updated >>= k) n s := by
  refine Safe.call (o := Op.transitionNotification _ _) fun s₁ h₁ hinv _ r s₂ hsem => ?_
  have hsilent : Silent (.transitionNotification record.version updated) := nofun
  have hsem' : Commits (s₁.1.settlements.transitionNotification record.version updated)
      (fun st => { s₁.1 with settlements := st }) s₁.1 r s₂.1 := hsem.1
  rcases hsem'.cases with ⟨u, st, hst, rfl, hw⟩ | ⟨exn, -, rfl, hw⟩
  · have hstore : s₂.1.settlements = st := by rw [hw]
    by_cases hid : c.notificationId = id
    · rw [hid] at hkey
      obtain ⟨hinv', hrely, hnew, havail⟩ := transition_own ((hread hid).rely h₁) hmoves
        (fun h => accepted_of_prefix (hsent hid h) h₁.2) hinv hst hkey hstore hsem.2
        (Silent.aside hsilent)
      refine ⟨hinv', hrely, if record.state = .prepared then n + 1 else n, ?_, ?_, nofun⟩
      · change permissions id s₁ + _ = permissions id s₂ + n
        rw [havail]
        split <;> omega
      · intro _ _
        have hsafe := hk s₂ ((protocol id body).rely_trans _ _ _ h₁ hrely) fun _ => .of_get body hnew
        simp only [hid, true_and] at hsafe
        exact hsafe
    · have hne : updated.notificationId ≠ id := by
        rw [hmoves.notificationId, hkey]
        exact hid
      obtain ⟨hinv', hrely, havail⟩ := transition_other hne hinv hst hstore hsem.2
        (Silent.aside hsilent)
      refine ⟨hinv', hrely, n, congrArg (· + n) havail.symm, ?_, nofun⟩
      intro _ _
      have hsafe := hk s₂ ((protocol id body).rely_trans _ _ _ h₁ hrely) fun h => absurd h hid
      rw [if_neg fun h => hid h.1] at hsafe
      exact hsafe
  · have hstore : s₂.1.settlements = s₁.1.settlements := by rw [hw]
    obtain ⟨hinv', hrely, havail⟩ := Relay.quiet hinv (Silent.aside hsilent) hstore hsem.2
    exact ⟨hinv', hrely, n, congrArg (· + n) havail.symm, nofun, fun _ _ => Respects.ret _⟩

/-- `_finish` ends a delivery. -/
theorem respects_finish {record : SmsNotificationRecord} {state : SmsDeliveryState} {code : String}
    {reference : Option String} {instant : Instant}
    (hread : c.notificationId = id → Known id body record s)
    (hkey : record.notificationId = c.notificationId) (hopen : record.state.isFinal = false)
    (hstate : state ≠ .prepared) (hsent : c.notificationId = id → state = .sent → AcceptedIn id s.2) :
    Respects d id body c (SmsOutboxRelay.finish d record state code reference instant) n s := by
  unfold SmsOutboxRelay.finish
  exact Respects.transition hread hkey ⟨rfl, rfl, rfl, hopen, hstate⟩ hsent fun _ _ _ => .ret _

/-- A call of the gateway, which uses the permission up. -/
theorem Respects.send {key destination text : String} {k : Except Exn SmsGatewayResult → Code α}
    (hkey : key = c.notificationId) (hn : n = if c.notificationId = id then 1 else 0)
    (htext : c.notificationId = id → text = body)
    (hk : ∀ r s₁ s₂, (protocol id body).Rely s s₂ →
      s₂.2 = s₁ ++ [⟨c, .sendSms key destination text, r⟩] → Respects d id body c (k r) 0 s₂) :
    Respects d id body c (.op (.sendSms key destination text) k) n s := by
  refine safe_op.mpr fun s₁ h₁ hinv hle r s₂ hsem => ?_
  have hw : s₂.1 = s₁.1 := hsem.1
  have hlog : s₂.2 = s₁.2 ++ [⟨c, .sendSms key destination text, r⟩] := hsem.2
  by_cases hid : c.notificationId = id
  · subst hid hkey
    rw [if_pos rfl] at hn
    obtain rfl := htext rfl
    obtain ⟨row, hrow, hbody, hrecorded⟩ := hinv.row
    -- the permission says that the notification is on its way and has not been sent
    have havail : permissions c.notificationId s₁ =
        if row.state ≠ .prepared ∧ sendsOf c.notificationId s₁.2 = 0 then 1 else 0 := by
      simp only [permissions, hrow]
    have hfree : row.state ≠ .prepared ∧ sendsOf c.notificationId s₁.2 = 0 := by
      by_contra hnot
      rw [if_neg hnot] at havail
      have hle' : n ≤ permissions c.notificationId s₁ := hle
      omega
    obtain ⟨hone, hsent⟩ := hrecorded.send hfree.1 hfree.2 c destination r
    rw [← hlog] at hone hsent
    have hrely : (protocol c.notificationId text).Rely s₁ s₂ := by
      refine ⟨fun row hrow => ⟨row, hw ▸ hrow, .refl row⟩, ?_⟩
      rw [hlog]
      exact List.prefix_append _ _
    have hkeys : ∀ e ∈ s₂.2, ∀ key destination text, e.op = .sendSms key destination text →
        key = e.call.notificationId := by
      rw [hlog]
      refine keys_append hinv.keys fun key' destination' text' hop => ?_
      cases hop
      rfl
    refine ⟨⟨hw ▸ hinv.keyed, hkeys, row, hw ▸ hrow, hbody, hsent⟩, hrely, 0, ?_, ?_⟩
    · have hnone : permissions c.notificationId s₂ = 0 := by
        simp [permissions, hw, hrow, hone]
      change permissions c.notificationId s₁ + 0 = permissions c.notificationId s₂ + n
      rw [havail, if_pos hfree, hnone, hn]
    · exact hk r s₁.2 s₂ ((protocol _ _).rely_trans _ _ _ h₁ hrely) hlog
  · have haside : Aside id ⟨c, .sendSms key destination text, r⟩ := by
      refine ⟨?_, fun key' destination' text' hop => ?_⟩
      · rw [hkey]
        exact beq_false_of_ne hid
      · cases hop
        exact hkey
    have hstore : s₂.1.settlements = s₁.1.settlements := by rw [hw]
    obtain ⟨hinv', hrely, havail⟩ := Relay.quiet hinv haside hstore hlog
    refine ⟨hinv', hrely, 0, ?_, hk r s₁.2 s₂ ((protocol _ _).rely_trans _ _ _ h₁ hrely) hlog⟩
    rw [if_neg hid] at hn
    rw [hn]
    exact congrArg (· + 0) havail.symm

/-- The `try` block of `deliver`, followed by the rest. -/
theorem Respects.sendOutcome {record : SmsNotificationRecord}
    {k : Except Exn SmsGatewayResult → Code α} (hkey : record.notificationId = c.notificationId)
    (hn : n = if c.notificationId = id then 1 else 0)
    (hbody : c.notificationId = id → record.renderedBody = body)
    (hk : ∀ r m s₂, (protocol id body).Rely s s₂ →
      (c.notificationId = id → ∀ result, r = .ok result → result.accepted = true →
        AcceptedIn id s₂.2) →
      Respects d id body c (k r) m s₂) :
    Respects d id body c ((SmsOutboxRelay.send record).outcome >>= k) n s := by
  refine Respects.quiet (o := .resolveSmsDestination record.contactBindingId) nofun nofun
    fun r s₁ s₂ _ _ _ _ hrely => ?_
  cases r with
  | error exn => exact hk (.error exn) n s₂ hrely fun _ _ h => nomatch h
  | ok destination =>
    refine Respects.send (k := k) hkey hn hbody fun r log s₃ hrely' hlog => ?_
    refine hk r 0 s₃ ((protocol id body).rely_trans _ _ _ hrely hrely') ?_
    rintro hid result rfl haccepted
    refine ⟨c, destination, record.renderedBody, result, ?_, haccepted⟩
    rw [hlog, ← hid, ← hkey]
    exact List.mem_append_right _ (List.mem_singleton_self _)

/-- A delivery keeps what the deliveries agree on. -/
theorem respects_deliver (id body : String) (c : Delivery) (s : World × SmsLog) :
    Respects d id body c (SmsOutboxRelay.deliver d c.notificationId c.at_) 0 s := by
  unfold SmsOutboxRelay.deliver
  refine Respects.quiet (o := .requireNotification c.notificationId) nofun nofun
    fun r s₁ s₂ _ hinv hsem hstore hrely => ?_
  obtain ⟨rfl, -⟩ := hsem
  cases hget : s₁.1.settlements.requireNotification c.notificationId with
  | error exn => exact Respects.ret _
  | ok record =>
    have hrow : s₁.1.settlements.notifications.get? c.notificationId = some record := by
      unfold SettlementStore.requireNotification at hget
      split at hget
      · next row hrow =>
        cases hget
        exact hrow
      · cases hget
    have hkey : record.notificationId = c.notificationId := hinv.keyed _ _ hrow
    have hknown : c.notificationId = id → Known id body record s₂ := by
      rintro rfl
      exact .of_get body (hstore ▸ hrow)
    have hbody : c.notificationId = id → record.renderedBody = body := by
      rintro rfl
      obtain ⟨row, hrow', hbody, -⟩ := hinv.row
      rw [hrow, Option.some.injEq] at hrow'
      rw [hrow', hbody]
    rw [Prog.bind_eq, Prog.ret_ok_bind]
    split
    · exact Respects.ret _
    · exact Respects.ret _
    · exact Respects.ret _
    · next hstate =>
      exact respects_finish hknown hkey (by rw [hstate]; rfl) nofun fun _ h => nomatch h
    · next hstate =>
      refine Respects.transition hknown hkey ⟨rfl, rfl, rfl, by rw [hstate]; rfl, nofun⟩
        (fun _ h => nomatch h) fun s₃ hrely' hknown' => ?_
      simp only [hstate, and_true]
      refine Respects.sendOutcome hkey rfl hbody fun r m s₄ hrely'' haccepted => ?_
      have hknown'' : c.notificationId = id → Known id body _ s₄ :=
        fun hid => (hknown' hid).rely hrely''
      cases r with
      | error exn => exact respects_finish hknown'' hkey rfl nofun fun _ h => nomatch h
      | ok result =>
        refine respects_finish hknown'' hkey rfl (by split <;> nofun) fun hid hsent => ?_
        split at hsent
        · next hresult => exact haccepted hid result rfl hresult
        · cases hsent

end Rules

end Relay

/-- In every run of deliveries, whatever the interleaving and the crashes, the gateway is called at
most once for a notification that was prepared, with its identifier as key and its stored body; a
notification is sent only if the gateway has accepted it; and the final states are absorbing. -/
theorem sms_sent_once {d : Deployment} {w₀ : World} (hkeyed : w₀.settlements.Keyed) {id : String}
    {n : SmsNotificationRecord} (hn : w₀.settlements.notifications.get? id = some n)
    (hprepared : n.state = .prepared)
    {x : Config Op.Resp Delivery Exn SmsNotificationRecord (World × SmsLog)}
    (hx : (relaySystem d).logged.Reachable (w₀, []) x) :
    sendsOf id x.state.2 ≤ 1 ∧
      (∀ e ∈ x.state.2, ∀ key destination body, e.op = .sendSms key destination body →
        key = e.call.notificationId ∧ (key = id → body = n.renderedBody)) ∧
      ∃ row, x.state.1.settlements.notifications.get? id = some row ∧
        row.renderedBody = n.renderedBody ∧ (row.state = .sent → AcceptedIn id x.state.2) ∧
        (row.state.isFinal = true → ∀ y, (relaySystem d).logged.Steps x y →
          y.state.1.settlements.notifications.get? id = some row) := by
  let P := Relay.protocol id n.renderedBody
  have hinit : P.Inv (w₀, []) := by
    refine ⟨hkeyed, by simp, n, hn, rfl, ?_⟩
    exact ⟨by simp [sendsOf], fun _ => rfl, fun h => by simp [hprepared] at h, by simp⟩
  have hnone : P.avail (w₀, []) = 0 := by
    change Relay.permissions id (w₀, []) = 0
    simp [Relay.permissions, hn, hprepared]
  have hG : ∀ (_ : ℕ) (_ : Delivery) (_ : Op) (s s' : World × SmsLog), P.Rely s s' → P.Rely s s' :=
    fun _ _ _ _ _ h => h
  have hbody : ∀ (_ : ℕ) (c : Delivery) (s : World × SmsLog), True → P.Inv s →
      Safe P ((relaySystem d).logged.sem c) (fun _ => P.Rely) (fun _ _ _ => True)
        ((relaySystem d).logged.body c) 0 s :=
    fun _ c s _ _ => Relay.respects_deliver id n.renderedBody c s
  have hholds := System.holds_of_reachable hG hinit hnone hbody (fun _ _ => trivial) hx
  obtain ⟨-, hkeys, row, hrow, hrendered, hrecorded⟩ := hholds.1
  refine ⟨hrecorded.once, ?_, row, hrow, hrendered, hrecorded.sent, fun hfinal y hy => ?_⟩
  · intro e he key destination body hop
    refine ⟨hkeys e he key destination body hop, ?_⟩
    rintro rfl
    exact hrecorded.bodies e he destination body hop
  · obtain ⟨-, -, hrely⟩ := System.holds_of_steps hG hholds (fun i c s _ => hbody i c s)
      (fun _ _ => trivial) hy
    obtain ⟨row', hrow', hevolves⟩ := hrely.1 row hrow
    rw [hrow', hevolves.final hfinal]

/-! ## A run of the sample -/

namespace Sample

/-- A notification that is ready to be sent. -/
def notification : SmsNotificationRecord where
  notificationId := "SMS-1"
  evidenceId := "SET-1"
  uttId := "UTT-1"
  recipientRole := .sender
  contactBindingId := "CONTACT-1"
  templateVersion := "settled-sms-v1"
  renderedBody := "RailOne: SETTLED."
  bodySha256 := ""
  state := .prepared
  gatewayReference := none
  normalizedCode := none
  version := 1
  createdAt := 0
  updatedAt := 0

/-- The world of the sample with a notification. -/
def notifiedWorld : World :=
  { world with
    settlements := ⟨Dict.empty, Dict.empty.set notification.notificationId notification⟩ }

/-- A gateway that accepts every message. -/
def gatewayOracle : (o : Op) → o.Resp
  | .resolveSmsDestination _ => .ok "+254700000001"
  | .sendSms .. => .ok ⟨true, "ACCEPTED", some "GW-1"⟩
  | o => oracle o

/-- The answers of the logged steps. -/
def relayAnswer (c : Delivery) (o : Op) (s : World × SmsLog) :
    Option (o.Resp × World × SmsLog) :=
  some ((s.1.answer runtime gatewayOracle o).1, (s.1.answer runtime gatewayOracle o).2,
    s.2 ++ [⟨c, o, (s.1.answer runtime gatewayOracle o).1⟩])

/-- Two workers deliver the notification; the second one finds it being dispatched. -/
def twoWorkers : Config Op.Resp Delivery Exn SmsNotificationRecord (World × SmsLog) :=
  (relaySystem deployment).logged.schedule relayAnswer
    [.start ⟨"SMS-1", 0⟩, .step 0, .step 0, .start ⟨"SMS-1", 5⟩, .step 1, .step 0, .step 0, .step 0,
      .step 1] ⟨(notifiedWorld, []), []⟩

theorem reachable_twoWorkers :
    (relaySystem deployment).logged.Reachable (notifiedWorld, []) twoWorkers := by
  refine System.steps_schedule (fun c o s r s' h => ?_) _ _
  have hsem := s.1.sem_answer runtime gatewayOracle o
  cases Option.some.inj h
  exact ⟨hsem, rfl⟩

theorem twoWorkers_outcome :
    (twoWorkers.state.1.settlements.notifications.get? "SMS-1").map SmsNotificationRecord.state =
      some .sent := by
  decide +kernel

theorem keyed_notifiedWorld : notifiedWorld.settlements.Keyed := by
  intro id row hrow
  change (Dict.empty.set notification.notificationId notification).get? id = some row at hrow
  rw [Dict.get?_set, Dict.get?_empty] at hrow
  split_ifs at hrow with hid
  cases hrow
  exact hid.symm

end Sample

/-- In the sample, the notification is sent, and the gateway has accepted it in its only call. -/
theorem sms_sent_once_sample :
    sendsOf "SMS-1" Sample.twoWorkers.state.2 ≤ 1 ∧
      AcceptedIn "SMS-1" Sample.twoWorkers.state.2 := by
  have hn : Sample.notifiedWorld.settlements.notifications.get? "SMS-1" =
      some Sample.notification := by decide
  obtain ⟨honce, -, row, hrow, -, hsent, -⟩ :=
    sms_sent_once Sample.keyed_notifiedWorld hn rfl Sample.reachable_twoWorkers
  have hstate := Sample.twoWorkers_outcome
  rw [hrow, Option.map_some, Option.some.injEq] at hstate
  exact ⟨honce, hsent hstate⟩

end RailOne
