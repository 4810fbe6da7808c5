import RailOneCore.Crypto.Authenticity

/-!
# Envelopes that make the verifier raise

`verify_artifact` turns value, type and signature errors into invalid results.  The conversion of the
issue time raises other classes, though: `OverflowError` for an integer that does not fit the
platform's time type and `OSError` for a year that does not fit its calendar.  An envelope raises them
when it has passed the checks before the conversion; no signature is needed for that.

Booleans are integers of the language, so that a signed header may carry `True` as its version or its
issue time.
-/

namespace RailOne

/-! ## Errors of the encoder -/

namespace PyValue

mutual

/-- A value that is refused is refused with a canonicalization error. -/
theorem kind_of_validate : ∀ (v : PyValue) (path : String) (exn : Exn), v.validate path = .error exn →
    exn.kind = .canonicalizationError
  | .none, _, _, h | .bool _, _, _, h | .int _, _, _, h | .str _, _, _, h => by cases h
  | .float _, _, _, h | .other _, _, _, h => by cases h; rfl
  | .seq _ items, path, exn, h => kind_of_validateItems items path 0 exn h
  | .map _ fields, path, exn, h => kind_of_validateFields fields path exn h

theorem kind_of_validateItems : ∀ (l : List PyValue) (path : String) (i : ℕ) (exn : Exn),
    validateItems l path i = .error exn → exn.kind = .canonicalizationError
  | [], _, _, _, h => by cases h
  | a :: l, path, i, exn, h => by
    rw [validateItems, bind_eq_error] at h
    rcases h with h | ⟨_, -, h⟩
    · exact kind_of_validate a _ exn h
    · exact kind_of_validateItems l path (i + 1) exn h

theorem kind_of_validateFields : ∀ (l : List (PyKey × PyValue)) (path : String) (exn : Exn),
    validateFields l path = .error exn → exn.kind = .canonicalizationError
  | [], _, _, h => by cases h
  | (.other _, _) :: _, _, _, h => by cases h; rfl
  | (.str k, a) :: l, path, exn, h => by
    rw [validateFields, bind_eq_error] at h
    rcases h with h | ⟨_, -, h⟩
    · exact kind_of_validate a _ exn h
    · exact kind_of_validateFields l path exn h

end

end PyValue

namespace ArtifactService

open RailOne.Sample (sealedRuntime)

variable {rt : Runtime} {keys : KeyProvider}

variable {e : PyEnvelope} {expected : Option ArtifactType} {acceptRevoked : Bool}

/-- Every field of the header is there, has its type and is in its range. -/
structure WellFormed (header : PyMapping) : Prop where
  alg : header.get "alg" = some (.str "EdDSA")
  crv : header.get "crv" = some (.str "Ed25519")
  version : header.get "v" = some (.int 1)
  kid : ∃ keyId, header.get "kid" = some (.str keyId) ∧ keyId ≠ ""
  iss : ∃ ownerId, header.get "iss" = some (.str ownerId)
  typ : ∃ artifactType : ArtifactType, header.get "typ" = some (.str artifactType.value)
  iat : ∃ n, header.get "iat" = some (.int n) ∧ -62135596800 ≤ n ∧ n ≤ 253402300799
  hash : ∃ hash, header.get "payload_sha256" = some (.str hash) ∧ ∀ c ∈ hash.toList, c.toNat < 128

namespace Sample

end Sample

end ArtifactService

end RailOne
