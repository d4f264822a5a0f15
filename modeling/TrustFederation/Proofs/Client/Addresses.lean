import TrustFederation.Client.Endpoint
import TrustFederation.Proofs.Codec.Percent
import TrustFederation.Proofs.Text.Dictionaries
import TrustFederation.Proofs.Text.Splitting
/-!
# Addresses tell their parameters

The address of a request to an endpoint is also what its answer is kept under. The query in it is
read back piece by piece as the parameters it was made of, whatever letters these hold, so requests
with different parameters never have one address. That an endpoint has a query of its own changes
only the mark before the parameters.
-/
namespace TrustFederation.Client

open Codec (Percent.decode Percent.decode_encode Percent.encode_unmarked)
open Text (Dictionary)

/-- The parameter that a piece of a query stands for: the two sides of its first equals sign. -/
def readItem (piece : String) : Option (String × String) := do
  let (name, value) ← Text.cutAt '=' piece.toList
  return (← Percent.decode (String.ofList name), ← Percent.decode (String.ofList value))

/-- A piece of a query is read back, even if there are equals signs in the parameter. -/
theorem read_item_query_item (parameter : String × String) :
    readItem (queryItem parameter) = some parameter := by
  have cut : Text.cutAt '=' (queryItem parameter).toList =
      some ((Codec.Percent.encode parameter.1).toList,
        (Codec.Percent.encode parameter.2).toList) := by
    refine Text.cutAt_eq_some_iff.mpr ⟨?_, ?_⟩
    · simp [queryItem, String.toList_append]
    · exact fun member => (Percent.encode_unmarked parameter.1 '=' member).2 rfl
  simp only [readItem, cut, String.ofList_toList, Percent.decode_encode, Option.bind_eq_bind,
    Option.bind_some, Option.pure_def, Prod.mk.eta]

/-- The query of parameters is cut into one piece for each of them. -/
theorem split_query {parameters : Dictionary String} (some_given : parameters ≠ []) :
    Text.split '&' (Text.join "&" (parameters.map queryItem)) = parameters.map queryItem := by
  refine Text.split_join (by simpa using some_given) ?_
  intro piece member among
  obtain ⟨parameter, -, rfl⟩ := List.mem_map.mp member
  simp only [queryItem, String.toList_append, List.mem_append] at among
  rcases among with (name | equals) | value
  · exact (Percent.encode_unmarked parameter.1 '&' name).1 rfl
  · exact absurd equals (by decide)
  · exact (Percent.encode_unmarked parameter.2 '&' value).1 rfl

/-- The query of parameters is read back as these parameters. -/
theorem read_query {parameters : Dictionary String} (some_given : parameters ≠ []) :
    (Text.split '&' (Text.join "&" (parameters.map queryItem))).map readItem =
      parameters.map some := by
  rw [split_query some_given, List.map_map]
  exact List.map_congr_left fun parameter _ => read_item_query_item parameter

/-- The mark between an endpoint and the parameters. -/
def queryMark (endpoint : String) : String := if '?' ∈ endpoint.toList then "&" else "?"

theorem endpoint_url_of_given (endpoint : String) {parameters : Dictionary String}
    (some_given : parameters ≠ []) :
    endpointUrl endpoint parameters =
      endpoint ++ queryMark endpoint ++ Text.join "&" (parameters.map queryItem) := by
  simp only [endpointUrl, List.isEmpty_iff, some_given, if_false, queryMark,
    List.contains_iff_mem]

theorem endpoint_url_longer (endpoint : String) {parameters : Dictionary String}
    (some_given : parameters ≠ []) :
    endpoint.toList.length < (endpointUrl endpoint parameters).toList.length := by
  have marked : (queryMark endpoint).toList.length = 1 := by
    unfold queryMark
    split <;> rfl
  rw [endpoint_url_of_given endpoint some_given]
  simp only [String.toList_append, List.length_append, marked]
  omega

/-- Parameters with one address are the same. -/
theorem eq_of_endpoint_url_eq {endpoint : String} {parameters others : Dictionary String}
    (same : endpointUrl endpoint others = endpointUrl endpoint parameters) :
    others = parameters := by
  by_cases given : parameters = [] <;> by_cases other : others = []
  · rw [given, other]
  · have longer := endpoint_url_longer endpoint other
    rw [same, given] at longer
    exact absurd longer (Nat.lt_irrefl _)
  · have longer := endpoint_url_longer endpoint given
    rw [← same, other] at longer
    exact absurd longer (Nat.lt_irrefl _)
  · rw [endpoint_url_of_given endpoint given, endpoint_url_of_given endpoint other,
      ← String.toList_inj] at same
    simp only [String.toList_append, List.append_cancel_left_eq, String.toList_inj] at same
    have read := read_query other
    rw [same, read_query given] at read
    exact (List.map_inj_right fun _ _ => Option.some.inj).mp read.symm

/-- The address of an endpoint and parameters tells the parameters: no others have this address.
If there are any, the address is the endpoint, then an ampersand if the endpoint has a question mark
and a question mark otherwise, then a query which, cut at the ampersands, each piece cut at its
first equals sign and both sides decoded, is read back as exactly the parameters in their order. In
a dictionary this is the order of the names, and the parameters are what is found under them. -/
theorem endpoint_url_tells (endpoint : String) (parameters : Dictionary String) :
    (∀ others : Dictionary String,
      endpointUrl endpoint others = endpointUrl endpoint parameters → others = parameters) ∧
    (parameters ≠ [] → ∃ query,
      endpointUrl endpoint parameters =
        endpoint ++ (if '?' ∈ endpoint.toList then "&" else "?") ++ query ∧
      (Text.split '&' query).map readItem = parameters.map some) ∧
    (∀ entries, parameters = Dictionary.ofList entries →
      (parameters.map (·.1)).Pairwise (· < ·) ∧
      ∀ name value, (name, value) ∈ parameters ↔ parameters.lookup name = some value) := by
  refine ⟨fun others => eq_of_endpoint_url_eq, fun some_given => ?_, ?_⟩
  · exact ⟨_, endpoint_url_of_given endpoint some_given, read_query some_given⟩
  · rintro entries rfl
    have ascending := Dictionary.ascending_of_list entries
    exact ⟨ascending, ascending.mem_iff_lookup⟩

/-- Names and values with every mark of a query in them. -/
example : (Text.split '&' "a%3D%26=%25%20%C3%A9&b=").map readItem =
    [some ("a=&", "% é"), some ("b", "")] := by decide +kernel

end TrustFederation.Client
