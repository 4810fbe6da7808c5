import RailOneCore.Institutions.Manifest
import RailOneCore.Institutions.Generic

/-!
# Callbacks of the configured adapter

`GenericHttpInstitutionAdapter.normalize_callback` reads the document of a provider, looks its outcome up
in the configured codes, and identifies the event by the digest of the document in canonical JSON.  That
encoder is for documents of RailOne and refuses floating-point numbers, which a provider may send.  Where
there are none, events have one identity exactly if their documents are equal as JSON values.
-/

namespace RailOne

open Ordered

/-- `InstitutionCallback`, as its constructor accepts it. -/
structure InstitutionCallback where
  providerId : String
  headers : List (String × String)
  body : ByteArray
  receivedAt : Instant
  bounded : body.size ≤ 1000000

/-- `GenericHttpInstitutionAdapter` with what it needs for callbacks: the codes of a status and the
verifier of callbacks, if there is one. -/
structure CallbackAdapter extends GenericHttpInstitutionAdapter where
  statusCodes : List (String × (InstitutionOutcome × FinalityLevel))
  callbackVerifier : Option (InstitutionCallback → Except Exn Unit)

namespace CallbackAdapter

variable (rt : Runtime) (adapter : CallbackAdapter)

/-- The configured codes of a status in upper case. -/
def statusTable : Dict String (InstitutionOutcome × FinalityLevel) :=
  adapter.statusCodes.foldl (fun dict p => dict.set (rt.upper p.1) p.2) .empty

/-- `ExplicitOutcomeNormalizer.status`. -/
def status (code : String) : InstitutionOutcome × FinalityLevel :=
  ((adapter.statusTable rt).get? (rt.upper code)).getD (.reconciliationRequired, .none)

/-- The callback passes the verifier, and its body is this object, which has the two configured
fields. -/
structure Reads (callback : InstitutionCallback) (payload : Fields) (outcome reference : Json) :
    Prop where
  verified : ∃ verify, adapter.callbackVerifier = some verify ∧ verify callback = .ok ()
  body : decodeJsonObject rt callback.body = .ok payload
  outcome : payload.get adapter.config.outcomeField = some outcome
  reference : payload.get adapter.config.externalReferenceField = some reference
  /-- `json.loads` makes dictionaries of the objects. -/
  dictionary : (Json.obj payload).DistinctKeys

variable {rt adapter} {callback callback' : InstitutionCallback} {payload payload' : Fields}
  {outcome outcome' reference reference' : Json}

/-- Digests are written with 64 lower-case hexadecimal digits. -/
def WritesDigests (rt : Runtime) : Prop :=
  ∀ data, InstitutionExecutionInstruction.isDigest (rt.sha256 data) = true

end CallbackAdapter

/-! ## A document with a fee -/

namespace Sample

theorem isDigest_replicate {l : List Char} (hlength : l.length = 4)
    (h : ∀ c ∈ l, ('a' ≤ c && c ≤ 'f') || ('0' ≤ c && c ≤ '9')) :
    InstitutionExecutionInstruction.isDigest (String.ofList (List.replicate 16 l).flatten) = true := by
  rw [InstitutionExecutionInstruction.isDigest, Bool.and_eq_true, beq_iff_eq, String.length_ofList,
    String.toList_ofList, List.all_eq_true]
  constructor
  · rw [List.length_flatten, List.map_replicate, hlength, List.sum_replicate]
    rfl
  · intro c hc
    obtain ⟨l', hl', hc⟩ := List.mem_flatten.mp hc
    rw [List.eq_of_mem_replicate hl'] at hc
    exact h c hc

theorem writesDigests_wideRuntime : CallbackAdapter.WritesDigests wideRuntime := by
  intro data
  refine isDigest_replicate ?_ ?_
  · simp [digest]
  · have hdigit : ∀ m < 16, (('a' ≤ CanonicalJson.hexDigit m && CanonicalJson.hexDigit m ≤ 'f') ||
        ('0' ≤ CanonicalJson.hexDigit m && CanonicalJson.hexDigit m ≤ '9')) = true := by decide
    intro c hc
    simp only [digest, String.toList_ofList, List.mem_map] at hc
    obtain ⟨n, -, rfl⟩ := hc
    exact hdigit _ (Nat.mod_lt _ (by decide))

end Sample

end RailOne
