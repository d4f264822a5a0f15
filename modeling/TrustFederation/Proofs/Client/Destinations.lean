import Mathlib.Data.List.DropRight
import TrustFederation.Client.Web
import TrustFederation.Proofs.Outcomes
/-!
# Where operations go

A client over the web is asked for configurations, statements, listings and trust marks. A
configuration is found at the place that the request names, or else at the well-known path below the
subject. Everything else is asked of the endpoint that the addressed entity offers for it. If there is
no subject, or no such endpoint, the operation is refused. Here this is said without the functions
that work out the address, which then turn out to do the same.
-/
namespace TrustFederation

/-! ## Texts without what they end with -/

namespace Text

/-- A text is another one with any number of one character behind it, which the other one does not
end with. -/
structure Trimmed (c : Char) (text base : String) : Prop where
  rest : ∃ count, text = base ++ String.ofList (List.replicate count c)
  bare : base.toList.getLast? ≠ some c

variable {c : Char} {text base : String}

theorem trim_end_list (c : Char) (text : String) :
    (trimEnd c text).toList = text.toList.rdropWhile (· == c) := by
  rw [trimEnd, String.toList_ofList]
  rfl

theorem trimmed_trim_end (c : Char) (text : String) : Trimmed c text (trimEnd c text) := by
  constructor
  · have same : text.toList.rtakeWhile (· == c) =
        List.replicate (text.toList.rtakeWhile (· == c)).length c :=
      List.eq_replicate_of_mem fun letter member => by simpa using List.mem_rtakeWhile_imp member
    refine ⟨(text.toList.rtakeWhile (· == c)).length, ?_⟩
    rw [← String.toList_inj, String.toList_append, trim_end_list, String.toList_ofList, ← same,
      List.rdropWhile_append_rtakeWhile]
  · rw [trim_end_list]
    intro last
    obtain ⟨before, whole⟩ := List.getLast?_eq_some_iff.mp last
    have nonempty : text.toList.rdropWhile (· == c) ≠ [] := by simp [whole]
    have differs := List.rdropWhile_last_not (· == c) text.toList nonempty
    simp [whole] at differs

/-- Only one text is left of another one in this way. -/
theorem trim_end_eq_iff : trimEnd c text = base ↔ Trimmed c text base := by
  constructor
  · rintro rfl
    exact trimmed_trim_end c text
  · rintro ⟨⟨count, rfl⟩, bare⟩
    rw [← String.toList_inj, trim_end_list, String.toList_append, String.toList_ofList]
    induction count with
    | zero =>
      rw [List.replicate_zero, List.append_nil, List.rdropWhile_eq_self_iff]
      intro nonempty last
      exact bare (by rw [List.getLast?_eq_some_getLast nonempty]; simpa using last)
    | succ count ih =>
      rw [List.replicate_succ', ← List.append_assoc, List.rdropWhile_concat_pos _ _ _ (by simp), ih]

end Text

namespace Client

/-! ## Operations -/

/-- The kinds of things that a client over the web is asked for. -/
inductive Operation.Kind where
  | configuration
  | fetch
  | listing
  | trustMark
  | trustMarkedListing
deriving DecidableEq

/-- Something that a client over the web is asked for. -/
structure Operation where
  kind : Operation.Kind
  request : Request
deriving DecidableEq

/-- Where the request of an operation goes. -/
def Operation.address (operation : Operation) : Except Failure String :=
  match operation.kind with
  | .configuration => operation.request.configurationAddress
  | .fetch => operation.request.endpointAddress "federation_fetch_endpoint" (·.fetch)
  | .listing => operation.request.endpointAddress "federation_list_endpoint" (·.list)
  | .trustMark => operation.request.endpointAddress "federation_trust_mark_endpoint" (·.trustMark)
  | .trustMarkedListing =>
    operation.request.endpointAddress "federation_trust_mark_list_endpoint" (·.trustMarkList)

/-- The endpoint that an operation of some kind needs: its name, and where an entity keeps it. -/
def Operation.Kind.endpoint? : Operation.Kind → Option (String × (Endpoints → Option String))
  | .configuration => none
  | .fetch => some ("federation_fetch_endpoint", (·.fetch))
  | .listing => some ("federation_list_endpoint", (·.list))
  | .trustMark => some ("federation_trust_mark_endpoint", (·.trustMark))
  | .trustMarkedListing => some ("federation_trust_mark_list_endpoint", (·.trustMarkList))

/-- The parameters of a request that name neither a subject nor a place. -/
def Request.remaining (request : Request) : Text.Dictionary String :=
  request.parameters.filter fun parameter => parameter.1 ≠ "sub" ∧ parameter.1 ≠ "location"

/-- The request of an operation goes to an address. -/
inductive Operation.GoesTo : Operation → String → Prop where
  /-- The place that a request for a configuration names. -/
  | located {request : Request} {location : String}
      (place : request.parameters.lookup "location" = some location) :
      GoesTo ⟨.configuration, request⟩ (endpointUrl location request.remaining)
  /-- The well-known path below the subject, without the slashes at its end. -/
  | wellKnown {request : Request} {subject base : String}
      (nowhere : request.parameters.lookup "location" = none)
      (about : request.parameters.lookup "sub" = some subject)
      (trimmed : Text.Trimmed '/' subject base) :
      GoesTo ⟨.configuration, request⟩
        (endpointUrl (base ++ "/.well-known/openid-federation") request.remaining)
  /-- The endpoint that the addressed entity offers. -/
  | offered {kind : Operation.Kind} {request : Request} {name : String}
      {select : Endpoints → Option String} {endpoints : Endpoints} {endpoint : String}
      (needs : kind.endpoint? = some (name, select))
      (known : request.endpoints = some endpoints) (offers : select endpoints = some endpoint) :
      GoesTo ⟨kind, request⟩ (endpointUrl endpoint request.parameters)

/-- The request of an operation goes nowhere, for a reason. -/
inductive Operation.IsRefused : Operation → Failure → Prop where
  /-- A request for a configuration that names neither a place nor a subject. -/
  | nameless {request : Request} (nowhere : request.parameters.lookup "location" = none)
      (nobody : request.parameters.lookup "sub" = none) :
      IsRefused ⟨.configuration, request⟩
        (.invalidRequest "Entity configuration request needs sub")
  /-- A request to an entity that offers no such endpoint, or of which no endpoints are known. -/
  | withheld {kind : Operation.Kind} {request : Request} {name : String}
      {select : Endpoints → Option String} (needs : kind.endpoint? = some (name, select))
      (lacks : ∀ endpoints, request.endpoints = some endpoints → select endpoints = none) :
      IsRefused ⟨kind, request⟩ (.invalidRequest ("Entity exposes no " ++ name))

variable {operation : Operation} {url : String} {failure : Failure}

theorem erased_eq_remaining (request : Request) :
    (request.parameters.erase subjectParameter).erase locationParameter = request.remaining := by
  unfold Text.Dictionary.erase Request.remaining
  rw [List.filter_filter]
  exact List.filter_congr fun parameter _ => by
    simp [subjectParameter, locationParameter, bne, beq_eq_decide, Bool.and_comm]

theorem address_of_endpoint {kind : Operation.Kind} {name : String}
    {select : Endpoints → Option String} (needs : kind.endpoint? = some (name, select))
    (request : Request) :
    (Operation.mk kind request).address = request.endpointAddress name select := by
  cases kind <;> cases needs <;> rfl

theorem address_of_goes (goes : operation.GoesTo url) : operation.address = .ok url := by
  cases goes with
  | @located request location place =>
    have found : configurationUrl request = .ok location := by
      simp only [configurationUrl, Request.parameter?, locationParameter, place]
    rw [← erased_eq_remaining]
    exact bind_ok_iff.mpr ⟨_, found, rfl⟩
  | @wellKnown request subject base nowhere about trimmed =>
    have found : configurationUrl request = .ok (base ++ "/.well-known/openid-federation") := by
      simp only [configurationUrl, Request.parameter?, locationParameter, subjectParameter, nowhere,
        about, Text.trim_end_eq_iff.mpr trimmed, wellKnownPath]
    rw [← erased_eq_remaining]
    exact bind_ok_iff.mpr ⟨_, found, rfl⟩
  | offered needs known offers =>
    simp only [address_of_endpoint needs, Request.endpointAddress, known, Option.bind_some, offers]

theorem address_of_refused (refused : operation.IsRefused failure) :
    operation.address = .error failure := by
  cases refused with
  | @nameless request nowhere nobody =>
    have missing : configurationUrl request =
        .error (.invalidRequest "Entity configuration request needs sub") := by
      simp only [configurationUrl, Request.parameter?, locationParameter, subjectParameter, nowhere,
        nobody]
    exact bind_error_iff.mpr (.inl missing)
  | @withheld kind request name select needs lacks =>
    have absent : request.endpoints.bind select = none := by
      cases known : request.endpoints with
      | none => rfl
      | some endpoints => exact lacks endpoints known
    simp only [address_of_endpoint needs, Request.endpointAddress, absent]

/-- The request of every operation goes somewhere, or is refused. -/
theorem goes_or_refused (operation : Operation) :
    (∃ url, operation.GoesTo url) ∨ ∃ failure, operation.IsRefused failure := by
  obtain ⟨kind, request⟩ := operation
  cases needs : kind.endpoint? with
  | none =>
    obtain rfl : kind = .configuration := by cases kind <;> first | rfl | cases needs
    cases place : request.parameters.lookup "location" with
    | some location => exact .inl ⟨_, .located place⟩
    | none =>
      cases about : request.parameters.lookup "sub" with
      | some subject => exact .inl ⟨_, .wellKnown place about (Text.trimmed_trim_end '/' subject)⟩
      | none => exact .inr ⟨_, .nameless place about⟩
  | some need =>
    cases known : request.endpoints with
    | none => exact .inr ⟨_, .withheld needs fun endpoints found => by simp [known] at found⟩
    | some endpoints =>
      cases offers : need.2 endpoints with
      | some endpoint => exact .inl ⟨_, .offered needs known offers⟩
      | none =>
        refine .inr ⟨_, .withheld needs fun others found => ?_⟩
        obtain rfl := Option.some.inj (known.symm.trans found)
        exact offers

/-- The address that is worked out is where the request goes, and none is worked out exactly for the
reasons to refuse the operation. -/
theorem address_exact (operation : Operation) :
    (∀ url, operation.address = .ok url ↔ operation.GoesTo url) ∧
      ∀ failure, operation.address = .error failure ↔ operation.IsRefused failure := by
  rcases goes_or_refused operation with ⟨url, goes⟩ | ⟨failure, refused⟩
  · have found := address_of_goes goes
    refine ⟨fun other => ⟨fun worked_out => ?_, address_of_goes⟩,
      fun failure => ⟨fun failed => ?_, address_of_refused⟩⟩
    · obtain rfl := Except.ok.inj (found.symm.trans worked_out)
      exact goes
    · cases found.symm.trans failed
  · have none_found := address_of_refused refused
    refine ⟨fun url => ⟨fun worked_out => ?_, address_of_goes⟩,
      fun other => ⟨fun failed => ?_, address_of_refused⟩⟩
    · cases none_found.symm.trans worked_out
    · obtain rfl := Except.error.inj (none_found.symm.trans failed)
      exact refused

end Client

end TrustFederation
