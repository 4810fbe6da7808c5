import RailOneCore.Crypto.SignatureService

/-!
# The contract store

`InMemoryContractStore` keeps three coupled maps: the accepted contract of each idempotency key, the
UTT of each quote, and the signed UTTs.  All three are written by `commit_acceptance` and by nothing
else.
-/

namespace RailOne

open Ordered

/-- An accepted quote: its UTT and its sender authority. -/
structure AcceptedContract where
  signedUtt : SignatureEnvelope
  senderAuthority : SignatureEnvelope
  quoteId : String
  uttId : String
  requestSha256 : String
  acceptedAt : Instant
  deriving DecidableEq, Repr

/-- `InMemoryContractStore`. -/
structure ContractStore where
  idempotency : Dict String AcceptedContract
  quoteToUtt : Dict String String
  utts : Dict String SignatureEnvelope

namespace ContractStore

/-- The store without contracts. -/
def empty : ContractStore := ⟨.empty, .empty, .empty⟩

/-- The message of a key that is bound to another request. -/
def idempotencyConflict : Exn :=
  ⟨.idempotencyConflict, "idempotency key was already used for different request material"⟩

/-- `resolve_idempotency`. -/
def resolveIdempotency (st : ContractStore) (key requestSha256 : String) :
    Except Exn (Option AcceptedContract) :=
  match st.idempotency.get? key with
  | none => .ok none
  | some existing =>
    if existing.requestSha256 ≠ requestSha256 then .error idempotencyConflict
    else .ok (some existing)

/-- `commit_acceptance`.  The Boolean is true when an identical request had already won. -/
def commitAcceptance (st : ContractStore) (key : String) (contract : AcceptedContract) :
    Except Exn ((AcceptedContract × Bool) × ContractStore) :=
  match st.idempotency.get? key with
  | some existing =>
    if existing.requestSha256 ≠ contract.requestSha256 then .error idempotencyConflict
    else .ok ((existing, true), st)
  | none =>
    match st.quoteToUtt.get? contract.quoteId with
    | some priorUtt => .error ⟨.quoteAlreadyAccepted, "quote already accepted as " ++ priorUtt⟩
    | none =>
      if (st.utts.get? contract.uttId).isSome then
        .error ⟨.runtimeError, "UTT identifier collision"⟩
      else .ok ((contract, false),
        { idempotency := st.idempotency.set key contract
          quoteToUtt := st.quoteToUtt.set contract.quoteId contract.uttId
          utts := st.utts.set contract.uttId contract.signedUtt })

/-- `require_utt`. -/
def requireUtt (st : ContractStore) (uttId : String) : Except Exn SignatureEnvelope :=
  match st.utts.get? uttId with
  | some utt => .ok utt
  | none => .error ⟨.uttNotFound, "persisted UTT not found: " ++ uttId⟩

/-- What a committed acceptance finds and does. -/
theorem commitAcceptance_eq_ok {st st' : ContractStore} {key : String}
    {contract : AcceptedContract} {res : AcceptedContract × Bool}
    (h : st.commitAcceptance key contract = .ok (res, st')) :
    (st' = st ∧ res.2 = true ∧ st.idempotency.get? key = some res.1 ∧
        res.1.requestSha256 = contract.requestSha256) ∨
      (res = (contract, false) ∧ st.idempotency.get? key = none ∧
        st.quoteToUtt.get? contract.quoteId = none ∧ st.utts.get? contract.uttId = none ∧
        st'.idempotency = st.idempotency.set key contract ∧
        st'.quoteToUtt = st.quoteToUtt.set contract.quoteId contract.uttId ∧
        st'.utts = st.utts.set contract.uttId contract.signedUtt) := by
  unfold commitAcceptance at h
  split at h
  · next existing hkey =>
    split_ifs at h with hsha
    cases h
    exact .inl ⟨rfl, rfl, hkey, not_not.mp hsha⟩
  · next hkey =>
    split at h
    · cases h
    · next hquote =>
      split_ifs at h with hutt
      cases h
      exact .inr ⟨rfl, hkey, hquote, by simpa using hutt, rfl, rfl, rfl⟩

theorem requireUtt_eq_ok {st : ContractStore} {uttId : String} {utt : SignatureEnvelope} :
    st.requireUtt uttId = .ok utt ↔ st.utts.get? uttId = some utt := by
  unfold requireUtt
  split <;> simp_all

end ContractStore

end RailOne
