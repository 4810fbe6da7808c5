import RailOneCore.Security.Envelope
import RailOneCore.Library.WriteOnce

/-!
# The vault of account endpoints

`EncryptedAccountEndpointVault` keeps the reference of an account at its provider, encrypted, under an
institution and a binding.  It is meant as a map in which the first text of a pair stays, but the key of a
record is the two identifiers with a colon between them, and identifiers may hold colons.  A run is
answered as by a write-once map if and only if no pair is registered whose key another pair has taken
(`answeredAsWriteOnce_iff`).
-/

namespace RailOne

open Ordered Machine

/-! ## The store -/

/-- `EncryptedSecretRecord`. -/
structure EncryptedSecretRecord where
  vaultName : String
  recordId : String
  ownerId : String
  envelope : EncryptedEnvelope
  plaintextSha256 : String
  deriving DecidableEq, Repr

/-- The records of an `InMemoryEncryptedSecretStore`, by vault and identifier. -/
abbrev EncryptedSecretStore := Dict (String × String) EncryptedSecretRecord

namespace EncryptedSecretStore

variable (store : EncryptedSecretStore)

/-- `put`. -/
def put (record : EncryptedSecretRecord) : Except Exn EncryptedSecretStore :=
  match store.get? (record.vaultName, record.recordId) with
  | some existing =>
    if existing = record then .ok store
    else .error ⟨.runtimeError, "encrypted secret immutability conflict"⟩
  | none => .ok (store.set (record.vaultName, record.recordId) record)

/-- `require`. -/
def find (vaultName recordId : String) : Except Exn EncryptedSecretRecord :=
  match store.get? (vaultName, recordId) with
  | some record => .ok record
  | none => .error ⟨.lookupError, "encrypted secret was not found"⟩

end EncryptedSecretStore

/-! ## The vault -/

/-- The identifiers of an account endpoint. -/
structure AccountPair where
  institutionId : String
  accountBindingId : String
  deriving DecidableEq, Repr

namespace AccountPair

variable (pair : AccountPair)

/-- The identifiers with a colon between them. -/
def recordText : String := pair.institutionId ++ ":" ++ pair.accountBindingId

/-- `_record_id`. -/
def recordId : Except Exn String :=
  if strip pair.institutionId = "" ∨ strip pair.accountBindingId = "" then
    .error ⟨.valueError, "institution and account binding identifiers are required"⟩
  else .ok pair.recordText

/-- The context in which the reference of the pair is encrypted. -/
def context : EnvelopeContext where
  purpose := .accountEndpoint
  recordId := pair.recordText
  ownerId := pair.institutionId
  fieldName := "provider_account_reference"

/-- The identifiers are not blank, and short enough for the size policy of the context. -/
structure Admissible : Prop where
  institutionId : strip pair.institutionId ≠ ""
  accountBindingId : strip pair.accountBindingId ≠ ""
  length : pair.recordText.length ≤ 256

variable {pair}

theorem Admissible.recordId_eq (h : pair.Admissible) : pair.recordId = .ok pair.recordText :=
  if_neg (not_or.mpr ⟨h.institutionId, h.accountBindingId⟩)

theorem Admissible.context (h : pair.Admissible) : pair.context.Admissible := by
  have hlength := h.length
  rw [recordText, String.length_append, String.length_append] at hlength
  refine ⟨⟨?_, h.length⟩, ⟨h.institutionId, ?_⟩, ⟨?_, ?_⟩⟩
  · intro hblank
    have hcolon := strip_eq_empty.mp hblank ':' (by simp [AccountPair.context, recordText])
    exact absurd hcolon (by decide)
  · change pair.institutionId.length ≤ 256
    omega
  · change strip "provider_account_reference" ≠ ""
    decide +kernel
  · change "provider_account_reference".length ≤ 256
    decide

/-- Pairs of one institution are told apart by their keys. -/
theorem eq_of_recordText_eq {pair' : AccountPair} (hinstitution : pair.institutionId = pair'.institutionId)
    (h : pair.recordText = pair'.recordText) : pair = pair' := by
  obtain ⟨institution, binding⟩ := pair
  obtain ⟨institution', binding'⟩ := pair'
  obtain rfl : institution = institution' := hinstitution
  obtain rfl : binding = binding' := (String.append_right_inj _).mp h
  rfl

end AccountPair

namespace EncryptedAccountEndpointVault

variable {Coins : Type} (rt : Runtime) (aes : AesGcm) (service : EnvelopeEncryptionService Coins)

/-- `register`. -/
def register (store : EncryptedSecretStore) (pair : AccountPair) (providerReference : String)
    (draws : EnvelopeDraws Coins) : Except Exn EncryptedSecretStore := do
  let recordId ← pair.recordId
  let envelope ← service.encryptText rt aes draws pair.context providerReference
  store.put
    { vaultName := "ACCOUNT_ENDPOINT"
      recordId
      ownerId := pair.institutionId
      envelope
      plaintextSha256 := rt.sha256 (utf8Bytes providerReference.toList) }

/-- `resolve`. -/
def resolve (store : EncryptedSecretStore) (pair : AccountPair) : Except Exn String := do
  let recordId ← pair.recordId
  let record ← store.find "ACCOUNT_ENDPOINT" recordId
  require (record.ownerId = pair.institutionId)
    ⟨.permissionError, "account endpoint owner mismatch"⟩
  service.decryptText rt aes record.envelope pair.context

/-- A call of the vault, with what an encryption draws. -/
inductive VaultCall (Coins : Type)
  | register (pair : AccountPair) (providerReference : String) (draws : EnvelopeDraws Coins)
  | resolve (pair : AccountPair)

/-- The pair of a call. -/
def VaultCall.pair : VaultCall Coins → AccountPair
  | .register pair _ _ => pair
  | .resolve pair => pair

/-- What a call returns: nothing, or a text. -/
def answer (store : EncryptedSecretStore) : VaultCall Coins → Except Exn (Option String)
  | .register pair providerReference draws =>
    (register rt aes service store pair providerReference draws).map fun _ => none
  | .resolve pair => (resolve rt aes service store pair).map some

/-- The store after a call.  A call that raises leaves it alone. -/
def step (store : EncryptedSecretStore) : VaultCall Coins → EncryptedSecretStore
  | .register pair providerReference draws =>
    (register rt aes service store pair providerReference draws).toOption.getD store
  | .resolve _ => store

/-! ## The vault as a write-once map -/

/-- The texts that can be registered. -/
def Registrable (text : String) : Prop :=
  text ≠ "" ∧ (utf8Bytes text.toList).size ≤ EnvelopeEncryptionService.maxPlaintextBytes

instance (text : String) : Decidable (Registrable text) :=
  inferInstanceAs (Decidable (_ ∧ _))

/-- The pair and the text that a call registers. -/
def registration : VaultCall Coins → Option (AccountPair × String)
  | .register pair text _ => if Registrable text then some (pair, text) else none
  | .resolve _ => none

/-- The text first registered for a pair in some calls. -/
def firstRegistered (calls : List (VaultCall Coins)) : AccountPair → Option String :=
  WriteOnce.first registration calls

/-- A call is answered as by a write-once map that holds the texts `m`. -/
structure AnsweredAsWriteOnce (store : EncryptedSecretStore) (m : AccountPair → Option String)
    (call : VaultCall Coins) : Prop where
  first : ∀ pair text draws, call = .register pair text draws → m pair = none → Registrable text →
    answer rt aes service store call = .ok none
  later : ∀ pair text draws old, call = .register pair text draws → m pair = some old → text ≠ old →
    (∃ exn, answer rt aes service store call = .error exn) ∧ step rt aes service store call = store
  registered : ∀ pair text, call = .resolve pair → m pair = some text →
    answer rt aes service store call = .ok (some text)
  missing : ∀ pair, call = .resolve pair → m pair = none →
    ∃ exn, answer rt aes service store call = .error exn
  /-- What the vault holds for other pairs, a text or nothing, stays. -/
  others : ∀ pair : AccountPair, pair.Admissible → pair ≠ call.pair →
    (resolve rt aes service (step rt aes service store call) pair).toOption =
      (resolve rt aes service store pair).toOption

/-- No pair with a text has the key of a pair that is registered for the first time. -/
def Apart (m : AccountPair → Option String) (call : VaultCall Coins) : Prop :=
  ∀ pair text, registration call = some (pair, text) → m pair = none →
    ∀ other, m other ≠ none → other.recordText ≠ pair.recordText

/-- The store holds the texts of the map, and records of nothing else. -/
structure Represents (store : EncryptedSecretStore) (m : AccountPair → Option String) : Prop where
  found : ∀ pair text, m pair = some text →
    ∃ record, store.get? ("ACCOUNT_ENDPOINT", pair.recordText) = some record ∧
      record.ownerId = pair.institutionId ∧
      service.Holds rt aes pair.context (utf8Bytes text.toList) record.envelope
  owned : ∀ id record, store.get? ("ACCOUNT_ENDPOINT", id) = some record →
    ∃ pair, m pair ≠ none ∧ pair.recordText = id ∧ record.ownerId = pair.institutionId

variable {rt aes service} {store : EncryptedSecretStore} {m : AccountPair → Option String}
  {pair : AccountPair} {text : String}

theorem represents_empty : Represents rt aes service .empty fun _ => none where
  found _ _ h := by cases h
  owned _ _ h := by cases h

/-! ### One call -/

theorem one_le_size_utf8Bytes (h : text ≠ "") : 1 ≤ (utf8Bytes text.toList).size := by
  by_contra hzero
  have hempty : utf8Bytes text.toList = utf8Bytes [] := by
    apply ByteArray.ext
    have hsize : (utf8Bytes text.toList).data.size = 0 := Nat.lt_one_iff.mp (Nat.lt_of_not_le hzero)
    exact Array.eq_empty_of_size_eq_zero hsize
  exact h (String.toList_inj.mp (utf8Bytes_injective hempty))

/-- Texts that cannot be registered are refused. -/
theorem register_of_not_registrable (hpair : pair.Admissible) (h : ¬ Registrable text)
    (draws : EnvelopeDraws Coins) : ∃ exn, register rt aes service store pair text draws = .error exn := by
  unfold register
  rw [hpair.recordId_eq]
  by_cases hempty : text = ""
  · refine ⟨⟨.valueError, "sensitive plaintext must be non-empty text"⟩, ?_⟩
    simp only [EnvelopeEncryptionService.encryptText, require, bind, Except.bind,
      if_neg (not_not.mpr hempty)]
  · have hsize : ¬ (1 ≤ (utf8Bytes text.toList).size ∧
        (utf8Bytes text.toList).size ≤ EnvelopeEncryptionService.maxPlaintextBytes) :=
      fun hsize => h ⟨hempty, hsize.2⟩
    refine ⟨⟨.valueError, "sensitive plaintext is outside the size policy"⟩, ?_⟩
    simp only [EnvelopeEncryptionService.encryptText, EnvelopeEncryptionService.encrypt, require, bind,
      Except.bind, ne_eq, if_pos hempty, if_neg hsize]

/-- Resolving reads the map. -/
theorem toOption_resolve (hstore : Represents rt aes service store m) (hpair : pair.Admissible) :
    (resolve rt aes service store pair).toOption = m pair := by
  unfold resolve
  rw [hpair.recordId_eq]
  cases hm : m pair with
  | some text =>
    obtain ⟨record, hget, howner, hholds⟩ := hstore.found pair text hm
    simp only [EncryptedSecretStore.find, hget, require, if_pos howner, hholds.decryptText_eq, bind,
      Except.bind]
    rfl
  | none =>
    cases hget : store.get? ("ACCOUNT_ENDPOINT", pair.recordText) with
    | none =>
      simp only [EncryptedSecretStore.find, hget, bind, Except.bind]
      rfl
    | some record =>
      obtain ⟨other, hother, hkey, howner⟩ := hstore.owned _ _ hget
      have hne : ¬ record.ownerId = pair.institutionId := by
        intro heq
        have hsame := AccountPair.eq_of_recordText_eq (howner.symm.trans heq) hkey
        exact hother (hsame ▸ hm)
      simp only [EncryptedSecretStore.find, hget, require, if_neg hne, bind, Except.bind]
      rfl

section Ideal

variable (haes : aes.Ideal) (hkeys : service.keys.Wraps (service.activeKeyId .accountEndpoint))
  (hdigests : CallbackAdapter.WritesDigests rt)

include haes hkeys hdigests

/-- Other texts come to the store in an envelope that holds them. -/
theorem register_eq_put (store : EncryptedSecretStore) (hpair : pair.Admissible) (h : Registrable text)
    (draws : EnvelopeDraws Coins) :
    ∃ record, register rt aes service store pair text draws = store.put record ∧
      record.vaultName = "ACCOUNT_ENDPOINT" ∧ record.recordId = pair.recordText ∧
      record.ownerId = pair.institutionId ∧
      service.Holds rt aes pair.context (utf8Bytes text.toList) record.envelope := by
  obtain ⟨envelope, hencrypt, hholds⟩ := EnvelopeEncryptionService.exists_encrypt draws haes hkeys hdigests
    hpair.context ⟨one_le_size_utf8Bytes h.1, h.2⟩
  let record : EncryptedSecretRecord :=
    { vaultName := "ACCOUNT_ENDPOINT"
      recordId := pair.recordText
      ownerId := pair.institutionId
      envelope
      plaintextSha256 := rt.sha256 (utf8Bytes text.toList) }
  refine ⟨record, ?_, rfl, rfl, rfl, hholds⟩
  simp only [record, register, hpair.recordId_eq, EnvelopeEncryptionService.encryptText, require, if_pos h.1,
    hencrypt, bind, Except.bind]

/-- A pair whose key is free is registered. -/
theorem register_free (hstore : Represents rt aes service store m) (hpair : pair.Admissible)
    (h : Registrable text) (hnone : m pair = none)
    (hfree : ∀ other, m other ≠ none → other.recordText ≠ pair.recordText)
    (draws : EnvelopeDraws Coins) :
    ∃ store', register rt aes service store pair text draws = .ok store' ∧
      Represents rt aes service store' (WriteOnce.write m pair text) := by
  obtain ⟨record, hput, hvault, hid, howner, hholds⟩ :=
    register_eq_put haes hkeys hdigests store hpair h draws
  have hget : store.get? ("ACCOUNT_ENDPOINT", pair.recordText) = none := by
    by_contra hsome
    obtain ⟨existing, hexisting⟩ := Option.ne_none_iff_exists'.mp hsome
    obtain ⟨other, hother, hkey, -⟩ := hstore.owned _ _ hexisting
    exact hfree other hother hkey
  refine ⟨store.set ("ACCOUNT_ENDPOINT", pair.recordText) record, ?_, ?_, ?_⟩
  · rw [hput, EncryptedSecretStore.put, hvault, hid, hget]
  · intro other text' hm
    by_cases hother : other = pair
    · subst hother
      rw [WriteOnce.write_self hnone] at hm
      cases hm
      exact ⟨record, Dict.get?_set_self _ _ _, howner, hholds⟩
    · rw [WriteOnce.write_of_ne hother] at hm
      obtain ⟨record', hget', hrecord'⟩ := hstore.found other text' hm
      have hne : ("ACCOUNT_ENDPOINT", other.recordText) ≠ ("ACCOUNT_ENDPOINT", pair.recordText) := by
        intro heq
        exact hfree other (hm ▸ Option.some_ne_none _) (Prod.mk.inj heq).2
      exact ⟨record', by rw [Dict.get?_set_of_ne _ _ hne, hget'], hrecord'⟩
  · intro id record' hget'
    rw [Dict.get?_set] at hget'
    split_ifs at hget' with heq
    · cases hget'
      refine ⟨pair, ?_, (Prod.mk.inj heq).2.symm, howner⟩
      rw [WriteOnce.write_self hnone]
      exact Option.some_ne_none _
    · obtain ⟨other, hother, hrest⟩ := hstore.owned id record' hget'
      have hne : other ≠ pair := fun heq => hother (heq ▸ hnone)
      exact ⟨other, by rwa [WriteOnce.write_of_ne hne], hrest⟩

/-- A pair whose key another pair has taken is refused. -/
theorem register_taken (hstore : Represents rt aes service store m) (hpair : pair.Admissible)
    (h : Registrable text) {other : AccountPair} (hother : m other ≠ none) (hne : other ≠ pair)
    (hkey : other.recordText = pair.recordText) (draws : EnvelopeDraws Coins) :
    register rt aes service store pair text draws =
      .error ⟨.runtimeError, "encrypted secret immutability conflict"⟩ := by
  obtain ⟨record, hput, hvault, hid, howner, -⟩ :=
    register_eq_put haes hkeys hdigests store hpair h draws
  obtain ⟨old, hold⟩ := Option.ne_none_iff_exists'.mp hother
  obtain ⟨existing, hget, hexisting, -⟩ := hstore.found other old hold
  have hdiffer : existing ≠ record := by
    rintro rfl
    exact hne (AccountPair.eq_of_recordText_eq (hexisting.symm.trans howner) hkey)
  rw [hput, EncryptedSecretStore.put, hvault, hid, ← hkey, hget]
  exact if_neg hdiffer

/-- A pair that has a text keeps it: another text is refused, and so is the same one, unless the same
envelope has been drawn. -/
theorem register_known (hstore : Represents rt aes service store m) (hpair : pair.Admissible) {old : String}
    (hold : m pair = some old) (draws : EnvelopeDraws Coins) :
    (register rt aes service store pair text draws = .ok store ∧ text = old) ∨
      ∃ exn, register rt aes service store pair text draws = .error exn := by
  by_cases h : Registrable text
  · obtain ⟨record, hput, hvault, hid, -, hholds⟩ :=
      register_eq_put haes hkeys hdigests store hpair h draws
    obtain ⟨existing, hget, -, hexisting⟩ := hstore.found pair old hold
    rw [hput, EncryptedSecretStore.put, hvault, hid, hget]
    by_cases heq : existing = record
    · subst heq
      have htext : Except.ok text = Except.ok (ε := Exn) old :=
        hholds.decryptText_eq.symm.trans hexisting.decryptText_eq
      exact .inl ⟨if_pos rfl, Except.ok.inj htext⟩
    · exact .inr ⟨_, if_neg heq⟩
  · exact .inr (register_of_not_registrable hpair h draws)

/-- A call that finds its key free, or writes nothing, leaves a store that represents the map after it. -/
theorem represents_step {call : VaultCall Coins} (hstore : Represents rt aes service store m)
    (hcall : call.pair.Admissible) (hapart : Apart m call) :
    Represents rt aes service (step rt aes service store call) (WriteOnce.next registration m call) := by
  cases call with
  | resolve pair => exact hstore
  | register pair text draws =>
    have hpair : pair.Admissible := hcall
    by_cases h : Registrable text
    · have hregistration : registration (.register pair text draws) = some (pair, text) := if_pos h
      unfold WriteOnce.next
      rw [hregistration, step]
      cases hm : m pair with
      | none =>
        obtain ⟨store', hok, hstore'⟩ := register_free haes hkeys hdigests hstore hpair h hm
          (hapart pair text hregistration hm) draws
        rw [hok]
        exact hstore'
      | some old =>
        have hsame : Represents rt aes service store (WriteOnce.write m pair text) := by
          rw [WriteOnce.write_eq_self hm]
          exact hstore
        have hknown : (register rt aes service store pair text draws = .ok store ∧ text = old) ∨
            ∃ exn, register rt aes service store pair text draws = .error exn :=
          register_known haes hkeys hdigests hstore hpair hm draws
        rcases hknown with ⟨hok, -⟩ | ⟨exn, herror⟩
        · rw [hok]
          exact hsame
        · rw [herror]
          exact hsame
    · have hregistration : registration (.register pair text draws) = none := if_neg h
      obtain ⟨exn, herror⟩ : ∃ exn, register rt aes service store pair text draws = .error exn :=
        register_of_not_registrable hpair h draws
      unfold WriteOnce.next
      rw [hregistration, step, herror]
      exact hstore

/-- A call is answered as by the map that the store represents exactly if it does not find its key taken
by another pair. -/
theorem answered_iff_apart {call : VaultCall Coins} (hstore : Represents rt aes service store m)
    (hcall : call.pair.Admissible) :
    AnsweredAsWriteOnce rt aes service store m call ↔ Apart m call := by
  constructor
  · intro h pair text hregistration hnone other hother hkey
    cases call with
    | resolve pair => cases hregistration
    | register pair' text' draws =>
      obtain ⟨hregistrable, heq⟩ : Registrable text' ∧ (pair', text') = (pair, text) := by
        simpa [registration] using hregistration
      cases heq
      have hne : other ≠ pair := fun heq => hother (heq ▸ hnone)
      have hok := h.first pair text draws rfl hnone hregistrable
      have htaken : register rt aes service store pair text draws =
          .error ⟨.runtimeError, "encrypted secret immutability conflict"⟩ :=
        register_taken haes hkeys hdigests hstore hcall hregistrable hother hne hkey draws
      rw [answer, htaken] at hok
      cases hok
  · intro hapart
    have hstep := represents_step haes hkeys hdigests hstore hcall hapart
    refine ⟨?_, ?_, ?_, ?_, ?_⟩
    · rintro pair text draws rfl hnone h
      have hregistration : registration (.register pair text draws) = some (pair, text) := if_pos h
      obtain ⟨store', hok, -⟩ := register_free haes hkeys hdigests hstore hcall h hnone
        (hapart pair text hregistration hnone) draws
      have hok' : register rt aes service store pair text draws = .ok store' := hok
      rw [answer, hok']
      rfl
    · rintro pair text draws old rfl hold hne
      have hknown : (register rt aes service store pair text draws = .ok store ∧ text = old) ∨
          ∃ exn, register rt aes service store pair text draws = .error exn :=
        register_known haes hkeys hdigests hstore hcall hold draws
      rcases hknown with ⟨-, heq⟩ | ⟨exn, herror⟩
      · exact absurd heq hne
      · rw [answer, step, herror]
        exact ⟨⟨exn, rfl⟩, rfl⟩
    · rintro pair text rfl hm
      have hresolve := toOption_resolve hstore hcall
      rw [VaultCall.pair, hm] at hresolve
      rw [answer]
      cases hcase : resolve rt aes service store pair with
      | error exn => rw [hcase] at hresolve; cases hresolve
      | ok text' => rw [hcase] at hresolve; cases hresolve; rfl
    · rintro pair rfl hm
      have hresolve := toOption_resolve hstore hcall
      rw [VaultCall.pair, hm] at hresolve
      rw [answer]
      cases hcase : resolve rt aes service store pair with
      | error exn => exact ⟨exn, rfl⟩
      | ok text' => rw [hcase] at hresolve; cases hresolve
    · intro other hother hne
      have hsame : WriteOnce.next registration m call other = m other := by
        rw [WriteOnce.next_eq_or]
        cases call with
        | resolve pair => exact Option.or_none
        | register pair text draws =>
          have hwritten : WriteOnce.written registration other (.register pair text draws) = none := by
            rw [WriteOnce.written, registration]
            by_cases h : Registrable text
            · rw [if_pos h]
              exact if_neg (Ne.symm hne)
            · rw [if_neg h]
              rfl
          rw [hwritten, Option.or_none]
      rw [toOption_resolve hstep hother, toOption_resolve hstore hother, hsame]

/-- A run over one store, with admissible identifiers, is answered as by a write-once map of the pairs if
and only if no pair is registered for the first time whose key another pair has taken. -/
theorem answeredAsWriteOnce_iff {calls : List (VaultCall Coins)}
    (hcalls : ∀ call ∈ calls, call.pair.Admissible) :
    (∀ before call rest, calls = before ++ call :: rest →
      AnsweredAsWriteOnce rt aes service (after (step rt aes service) .empty before)
        (firstRegistered before) call) ↔
    ∀ before call rest, calls = before ++ call :: rest → Apart (firstRegistered before) call := by
  let next : EncryptedSecretStore × (AccountPair → Option String) → VaultCall Coins →
      EncryptedSecretStore × (AccountPair → Option String) :=
    fun st call => (step rt aes service st.1 call, WriteOnce.next registration st.2 call)
  have hafter : ∀ before : List (VaultCall Coins), after next (.empty, fun _ => none) before =
      (after (step rt aes service) .empty before, firstRegistered before) := by
    intro before
    rw [after_prod, WriteOnce.after_empty]
    rfl
  have hrun : Throughout next (fun st call => AnsweredAsWriteOnce rt aes service st.1 st.2 call)
        (.empty, fun _ => none) calls ↔
      Throughout next (fun st call => Apart st.2 call) (.empty, fun _ => none) calls := by
    refine throughout_iff (I := fun st => Represents rt aes service st.1 st.2)
      (A := fun call => call.pair.Admissible) ?_ ?_ represents_empty hcalls
    · exact fun st call hst hcall => answered_iff_apart haes hkeys hdigests hst hcall
    · exact fun st call hst hcall hapart => represents_step haes hkeys hdigests hst hcall hapart
  rw [throughout_iff_forall_split, throughout_iff_forall_split] at hrun
  simpa only [hafter] using hrun

end Ideal

/-! ## Two pairs with one key -/

section Sample

open Sample

/-- Register a reference in the vault of the sample. -/
def registerReference (institutionId accountBindingId reference : String) : VaultCall (TokenBytes 12) :=
  .register ⟨institutionId, accountBindingId⟩ reference sampleDraws

theorem registrable_reference : Registrable "SIM-ACCOUNT-999" ∧ Registrable "SIM-ACCOUNT-000" := by
  decide +kernel

/-- A registered reference is resolved. -/
theorem answeredAsWriteOnce_bank :
    answer wideRuntime maskingAes sampleEncryption
      (after (step wideRuntime maskingAes sampleEncryption) .empty
        [registerReference "BANK-001" "BIND-001" "SIM-ACCOUNT-999"]) (.resolve ⟨"BANK-001", "BIND-001"⟩) =
      .ok (some "SIM-ACCOUNT-999") := by
  have hpair : AccountPair.Admissible ⟨"BANK-001", "BIND-001"⟩ :=
    ⟨by decide +kernel, by decide +kernel, by decide +kernel⟩
  have hcalls : ∀ call ∈ [registerReference "BANK-001" "BIND-001" "SIM-ACCOUNT-999",
      .resolve ⟨"BANK-001", "BIND-001"⟩], call.pair.Admissible := by
    intro call hcall
    rcases List.mem_pair.mp hcall with rfl | rfl
    · exact hpair
    · exact hpair
  have hiff := answeredAsWriteOnce_iff maskingAes_ideal (sampleEncryption_wraps .accountEndpoint)
    writesDigests_wideRuntime hcalls
  have hfirst : firstRegistered [registerReference "BANK-001" "BIND-001" "SIM-ACCOUNT-999"]
      ⟨"BANK-001", "BIND-001"⟩ = some "SIM-ACCOUNT-999" := by
    decide +kernel
  refine (hiff.mpr ?_ [registerReference "BANK-001" "BIND-001" "SIM-ACCOUNT-999"] _ [] rfl).registered _ _
    rfl hfirst
  intro before call rest heq pair text hregistration hnone other hother
  cases before with
  | nil => exact absurd rfl hother
  | cons c before =>
    have htail : [.resolve ⟨"BANK-001", "BIND-001"⟩] = before ++ call :: rest := (List.cons.inj heq).2
    cases before with
    | nil =>
      have hcall : .resolve ⟨"BANK-001", "BIND-001"⟩ = call := (List.cons.inj htail).1
      rw [← hcall] at hregistration
      cases hregistration
    | cons d before =>
      have hnil : [] = before ++ call :: rest := (List.cons.inj htail).2
      exact absurd hnil (by simp)

/-- The binding "B:C" of the institution "A" takes the key of the binding "C" of the institution "A:B",
whose reference is then refused. -/
theorem reference_refused :
    AccountPair.Admissible ⟨"A", "B:C"⟩ ∧ AccountPair.Admissible ⟨"A:B", "C"⟩ ∧
      Registrable "SIM-ACCOUNT-000" ∧
      firstRegistered [registerReference "A" "B:C" "SIM-ACCOUNT-999"] ⟨"A:B", "C"⟩ = none ∧
      answer wideRuntime maskingAes sampleEncryption
        (after (step wideRuntime maskingAes sampleEncryption) .empty
          [registerReference "A" "B:C" "SIM-ACCOUNT-999"])
        (registerReference "A:B" "C" "SIM-ACCOUNT-000") =
        .error ⟨.runtimeError, "encrypted secret immutability conflict"⟩ :=
  ⟨⟨by decide +kernel, by decide +kernel, by decide +kernel⟩,
    ⟨by decide +kernel, by decide +kernel, by decide +kernel⟩, registrable_reference.2,
    by decide +kernel, by decide +kernel⟩

end Sample

end EncryptedAccountEndpointVault

end RailOne
