/-!
# Computations that may fail

A computation that consists of parts succeeds when each part does, and a failure that is put in
other words is still a failure. Where it matters what a failure says, the reasons of the parts are
reasons of the whole.
-/
namespace TrustFederation

/-- A computation in two parts succeeds when both parts do. -/
theorem bind_ok_iff {ε α β : Type} {first : Except ε α} {next : α → Except ε β} {value : β} :
    (first >>= next) = .ok value ↔ ∃ found, first = .ok found ∧ next found = .ok value := by
  cases first with
  | error failure =>
    constructor
    · intro impossible
      cases impossible
    · rintro ⟨_, impossible, -⟩
      cases impossible
  | ok found =>
    constructor
    · intro rest
      exact ⟨found, rfl, rest⟩
    · rintro ⟨_, same, rest⟩
      cases same
      exact rest

/-- A computation in two parts fails where one of them does. -/
theorem bind_error_iff {ε α β : Type} {first : Except ε α} {next : α → Except ε β} {failure : ε} :
    (first >>= next) = .error failure ↔
      first = .error failure ∨ ∃ found, first = .ok found ∧ next found = .error failure := by
  cases first with
  | error other =>
    constructor
    · intro failed
      cases failed
      exact .inl rfl
    · rintro (failed | ⟨_, impossible, -⟩)
      · cases failed
        rfl
      · cases impossible
  | ok found =>
    constructor
    · intro rest
      exact .inr ⟨found, rfl, rest⟩
    · rintro (impossible | ⟨_, same, rest⟩)
      · cases impossible
      · cases same
        exact rest

/-- A computation that goes on only if nothing is wrong has found nothing wrong when it succeeds. -/
theorem ok_of_guard {ε α : Type} {wrong : Prop} [Decidable wrong] {failure : ε}
    {next : Unit → Except ε α} {value : α}
    (accepted : (if wrong then Except.error failure >>= next else next ()) = .ok value) :
    ¬ wrong ∧ next () = .ok value := by
  split at accepted
  · cases accepted
  case isFalse fine => exact ⟨fine, accepted⟩

theorem ok_of_to_option {ε α : Type} {result : Except ε α} {value : α}
    (found : result.toOption = some value) : result = .ok value := by
  cases result with
  | error failure => cases found
  | ok other => exact congrArg Except.ok (Option.some.inj found)

/-- Putting a failure in other words changes no success. -/
theorem map_error_ok_iff {ε δ α : Type} {result : Except ε α} {words : ε → δ} {value : α} :
    result.mapError words = .ok value ↔ result = .ok value := by
  cases result with
  | error failure =>
    constructor
    · intro impossible
      cases impossible
    · intro impossible
      cases impossible
  | ok found =>
    constructor
    · intro same
      cases same
      rfl
    · intro same
      cases same
      rfl

/-- A computation fails for a reason, or it comes to something. -/
inductive Comes {ε α : Type} (refused : ε → Prop) (done : α → Prop) : Except ε α → Prop where
  | failed {failure : ε} (reason : refused failure) : Comes refused done (.error failure)
  | came {value : α} (reached : done value) : Comes refused done (.ok value)

namespace Comes

variable {ε α β : Type} {refused other : ε → Prop} {done last : α → Prop} {result : Except ε α}

theorem elim (comes : Comes refused done result) {goal : Except ε α → Prop}
    (failed : ∀ failure, refused failure → goal (.error failure))
    (came : ∀ value, done value → goal (.ok value)) : goal result := by
  cases comes with
  | failed reason => exact failed _ reason
  | came reached => exact came _ reached

theorem mono (comes : Comes refused done result)
    (reasons : ∀ failure, refused failure → other failure)
    (values : ∀ value, done value → last value) : Comes other last result :=
  comes.elim (fun failure reason => .failed (reasons failure reason))
    fun value reached => .came (values value reached)

/-- What a part fails at, the whole fails at. What it comes to, the rest goes on with. -/
theorem bind {whole : β → Prop} {use : α → Except ε β} (comes : Comes refused done result)
    (reasons : ∀ failure, refused failure → other failure)
    (rest : ∀ value, done value → Comes other whole (use value)) :
    Comes other whole (result >>= use) := by
  cases comes with
  | failed reason => exact .failed (reasons _ reason)
  | came reached => exact rest _ reached

end Comes

theorem comes_self {ε α : Type} (result : Except ε α) :
    Comes (fun failure => result = .error failure) (fun value => result = .ok value) result := by
  cases result with
  | error failure => exact .failed rfl
  | ok value => exact .came rfl

end TrustFederation
