/-!
# Dictionaries in the order of their names

A dictionary is a list of names with their values in ascending order of the names, each
name once. Two dictionaries are equal exactly when they hold the same values.
-/
namespace TrustFederation.Text

/-- Names with their values. -/
abbrev Dictionary (α : Type) := List (String × α)

namespace Dictionary

variable {α : Type}

/-- A dictionary with one more entry. An entry of the same name is replaced. -/
def insert (name : String) (value : α) : Dictionary α → Dictionary α
  | [] => [(name, value)]
  | (other, kept) :: rest =>
    if name < other then (name, value) :: (other, kept) :: rest
    else if name = other then (name, value) :: rest
    else (other, kept) :: insert name value rest

/-- A dictionary without the entry of a name. -/
def erase (name : String) (entries : Dictionary α) : Dictionary α :=
  entries.filter (·.1 != name)

/-- The dictionary with the entries given; of several with one name the last is kept. -/
def ofList (entries : List (String × α)) : Dictionary α :=
  entries.foldl (fun kept (name, value) => insert name value kept) []

theorem lookup_insert (name other : String) (value : α) (entries : Dictionary α) :
    (insert name value entries).lookup other =
      if other = name then some value else entries.lookup other := by
  induction entries with
  | nil =>
    by_cases same : other = name <;> simp [insert, List.lookup_cons, same, beq_eq_false_iff_ne.2]
  | cons entry rest ih =>
    obtain ⟨first, kept⟩ := entry
    by_cases same : other = name
    · subst same
      by_cases below : other < first
      · simp [insert, below]
      · by_cases equal : other = first
        · subst equal
          simp [insert]
        · simp only [insert, below, equal, if_false, List.lookup_cons, ih, if_true]
          simp [beq_eq_false_iff_ne.2 equal]
    · by_cases below : name < first
      · simp [insert, below, List.lookup_cons, same, beq_eq_false_iff_ne.2 same]
      · by_cases equal : name = first
        · subst equal
          simp [insert, List.lookup_cons, same, beq_eq_false_iff_ne.2 same]
        · simp only [insert, below, equal, if_false, List.lookup_cons, ih, same]

end Dictionary

end TrustFederation.Text
