import Mathlib.Data.String.Basic
import TrustFederation.Proofs.Text.Splitting
import TrustFederation.Resolve.Request
/-!
# Keys of resolve requests

A key joins a resolver and the parts of a request by bars. It tells them apart as long as none of
them holds a bar, except that an absent entity type and an empty one are written alike. Parts with a
bar are neither refused nor written in another way, so requests with such parts can have one key.
Reading is strict: a key is that of what is read from it, and every other text is refused.
-/
namespace TrustFederation.Resolve.Request

/-- What is joined in the key of a request at a resolver. -/
def parts (resolver : String) (request : Request) : List String :=
  [resolver, request.subject, request.trustAnchor, request.entityType.getD ""]

/-- A request as its key tells it: an empty entity type is an absent one. -/
def asTold (request : Request) : Request :=
  if request.entityType = some "" then { request with entityType := none } else request

theorem as_told_eq (request : Request) :
    request.asTold = ⟨request.subject, request.trustAnchor,
      if (request.entityType.getD "").isEmpty then none else some (request.entityType.getD "")⟩ := by
  obtain ⟨subject, trustAnchor, entityType⟩ := request
  cases entityType with
  | none => rfl
  | some type => by_cases empty : type = "" <;> simp [asTold, empty]

/-- The parts tell the resolver and the request. -/
theorem eq_of_parts_eq {resolver other : String} {request fellow : Request}
    (same : fellow.parts other = request.parts resolver) :
    other = resolver ∧ fellow.asTold = request.asTold := by
  simp only [parts, List.cons.injEq, and_true] at same
  obtain ⟨resolvers, subjects, anchors, types⟩ := same
  rw [as_told_eq, as_told_eq, subjects, anchors, types]
  exact ⟨resolvers, rfl⟩

/-- A key that is cut into the parts of a request is read as this request. -/
theorem of_cache_key_of_parts {key resolver : String} {request : Request}
    (cut : Text.split separator key = request.parts resolver) (subject : request.subject ≠ "")
    (anchor : request.trustAnchor ≠ "") : ofCacheKey key = .ok (resolver, request.asTold) := by
  rw [ofCacheKey, cut, as_told_eq]
  simp only [parts]
  rw [if_neg (by simp [subject, anchor])]

/-- What a key is cut into when no part holds a bar. -/
theorem split_cache_key {resolver : String} {request : Request}
    (clean : ∀ part ∈ request.parts resolver, separator ∉ part.toList) :
    Text.split separator (request.cacheKey resolver) = request.parts resolver :=
  Text.split_join (List.cons_ne_nil _ _) clean

/-- A key of parts without bars tells the resolver and the request, and no other request at whatever
resolver has this key, an empty entity type being told as an absent one. If the subject and the
anchor are not empty, the key is read as this resolver and this request. -/
theorem cache_key_tells (resolver : String) (request : Request)
    (clean : ∀ part ∈ request.parts resolver, separator ∉ part.toList) :
    (∀ other fellow, cacheKey fellow other = request.cacheKey resolver →
      other = resolver ∧ fellow.asTold = request.asTold) ∧
    (request.subject ≠ "" → request.trustAnchor ≠ "" →
      ofCacheKey (request.cacheKey resolver) = .ok (resolver, request.asTold)) ∧
    (request.entityType ≠ some "" → request.asTold = request) := by
  have cut := split_cache_key clean
  refine ⟨fun other fellow same => ?_, of_cache_key_of_parts cut, fun typed => if_neg typed⟩
  rw [← same, cacheKey, Text.split_join_eq (List.cons_ne_nil _ _)] at cut
  exact eq_of_parts_eq (Text.eq_of_flat_map_split rfl cut)

theorem cache_key_tells_empty_type :
    let request : Request := ⟨"https://rp.example", "https://ta.example", some ""⟩
    let resolver := "https://resolver.example"
    ofCacheKey (request.cacheKey resolver) = .ok (resolver, { request with entityType := none }) ∧
      ∀ other fellow, cacheKey fellow other = request.cacheKey resolver →
        other = resolver ∧ fellow.asTold = request.asTold := by
  intro request resolver
  have told := cache_key_tells resolver request (by decide)
  exact ⟨told.2.1 (by decide) (by decide), told.1⟩

/-- Different requests with one key. -/
theorem cache_key_shared :
    let resolver := "https://resolver.example"
    let untyped : Request := ⟨"https://rp.example", "https://ta.example", none⟩
    let empty : Request := { untyped with entityType := some "" }
    let barred : Request := { untyped with subject := "https://rp.example/a|b" }
    (empty ≠ untyped ∧ empty.cacheKey resolver = untyped.cacheKey resolver ∧
      ofCacheKey (empty.cacheKey resolver) = .ok (resolver, untyped)) ∧
    (barred.cacheKey resolver =
        cacheKey { untyped with subject := "b" } (resolver ++ "|https://rp.example/a") ∧
      ofCacheKey (barred.cacheKey resolver) = .error (.invalidRequest
        "Malformed resolve cache key: https://resolver.example|https://rp.example/a|b|https://ta.example|")) := by
  decide +kernel

/-! ## Reading keys -/

/-- A resolver and a request as they are read from a key. -/
structure Telling (resolver : String) (request : Request) : Prop where
  clean : ∀ part ∈ request.parts resolver, separator ∉ part.toList
  subject : request.subject ≠ ""
  anchor : request.trustAnchor ≠ ""
  typed : request.entityType ≠ some ""

/-- What is read from a key has this key, and nothing else that could be read has it. -/
theorem of_cache_key_ok_iff {key resolver : String} {request : Request} :
    ofCacheKey key = .ok (resolver, request) ↔
      request.cacheKey resolver = key ∧ request.Telling resolver := by
  constructor
  · intro read
    unfold ofCacheKey at read
    split at read
    case h_1 subject anchor type cut =>
      split at read
      · cases read
      case isFalse present =>
        cases read
        simp only [Bool.or_eq_true, String.isEmpty_iff, not_or] at present
        have parted : parts resolver ⟨subject, anchor, if type.isEmpty then none else some type⟩ =
            Text.split separator key := by
          rw [cut]
          by_cases empty : type = "" <;> simp [parts, empty]
        refine ⟨?_, ?_, present.1, present.2, ?_⟩
        · exact (congrArg (Text.join (String.singleton separator)) parted).trans
            (Text.join_split separator key)
        · intro part member
          rw [parted] at member
          exact Text.not_mem_of_mem_split member
        · by_cases empty : type = "" <;> simp [empty]
    case h_2 => cases read
  · rintro ⟨rfl, told⟩
    rw [of_cache_key_of_parts (split_cache_key told.clean) told.subject told.anchor, asTold,
      if_neg told.typed]

/-- Reading a key fails only because the request is malformed. -/
theorem failure_of_cache_key {key : String} {failure : Failure}
    (refused : ofCacheKey key = .error failure) : ∃ detail, failure = .invalidRequest detail := by
  unfold ofCacheKey at refused
  split at refused
  · split at refused
    · cases refused
      exact ⟨_, rfl⟩
    · cases refused
  · cases refused
    exact ⟨_, rfl⟩

/-- A key is read exactly if it has three bars and its second and its third part are not empty. The
resolver and the request that are read have this key, no part of them holds a bar and no entity type
is empty; no others of this kind have it. Every failure is that of a malformed request. -/
theorem of_cache_key_exact (key : String) :
    ((∃ told, ofCacheKey key = .ok told) ↔ key.toList.count separator = 3 ∧
      (Text.split separator key)[1]? ≠ some "" ∧ (Text.split separator key)[2]? ≠ some "") ∧
    (∀ resolver request, ofCacheKey key = .ok (resolver, request) ↔
      request.cacheKey resolver = key ∧ request.Telling resolver) ∧
    (∀ failure, ofCacheKey key = .error failure → ∃ detail, failure = .invalidRequest detail) := by
  refine ⟨?_, fun resolver request => of_cache_key_ok_iff, fun failure => failure_of_cache_key⟩
  have length := Text.length_split separator key
  constructor
  · rintro ⟨⟨resolver, request⟩, read⟩
    obtain ⟨rfl, told⟩ := of_cache_key_ok_iff.mp read
    rw [split_cache_key told.clean] at length ⊢
    simp only [parts, List.length_cons, List.length_nil] at length
    exact ⟨by omega, fun empty => told.subject (Option.some.inj empty),
      fun empty => told.anchor (Option.some.inj empty)⟩
  · rintro ⟨bars, second, third⟩
    rw [bars] at length
    obtain ⟨resolver, subject, anchor, type, cut⟩ := List.length_eq_four.mp length
    rw [cut] at second third
    have present : ¬ (subject.isEmpty || anchor.isEmpty) = true := by
      simpa using And.intro second third
    exact ⟨(resolver, ⟨subject, anchor, if type.isEmpty then none else some type⟩), by
      rw [ofCacheKey, cut]
      exact if_neg present⟩

end TrustFederation.Resolve.Request
