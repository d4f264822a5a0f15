import Mathlib.Data.String.Basic
import TrustFederation.Text.Dictionary
/-!
# Dictionaries in order

A dictionary stands in the order of its names, each name once, in whatever order its entries were
given: it keeps this under every insertion. Then its entries are exactly what is found under their
names.
-/
namespace TrustFederation.Text.Dictionary

variable {α : Type}

/-- The names stand in ascending order, each one once. -/
def Ascending (entries : Dictionary α) : Prop := (entries.map (·.1)).Pairwise (· < ·)

theorem mem_names_insert (name other : String) (value : α) (entries : Dictionary α) :
    other ∈ (insert name value entries).map (·.1) ↔ other = name ∨ other ∈ entries.map (·.1) := by
  fun_induction insert name value entries with
  | case1 => simp
  | case2 => simp
  | case3 kept rest _ => simp
  | case4 first kept rest _ _ ih =>
    rw [List.map_cons, List.mem_cons, List.map_cons, List.mem_cons, ih]
    exact or_left_comm

theorem Ascending.insert {entries : Dictionary α} (ascending : Ascending entries) (name : String)
    (value : α) : Ascending (insert name value entries) := by
  unfold Ascending at ascending ⊢
  fun_induction Dictionary.insert name value entries with
  | case1 => simp
  | case2 first kept rest below =>
    refine List.pairwise_cons.mpr ⟨?_, ascending⟩
    intro other member
    rcases List.mem_cons.mp member with rfl | later
    · exact below
    · exact below.trans (List.rel_of_pairwise_cons ascending later)
  | case3 kept rest _ => exact ascending
  | case4 first kept rest above differs ih =>
    rw [List.map_cons, List.pairwise_cons] at ascending ⊢
    refine ⟨?_, ih ascending.2⟩
    intro other member
    rcases (mem_names_insert name other value rest).mp member with rfl | later
    · exact lt_of_le_of_ne (not_lt.mp above) (Ne.symm differs)
    · exact ascending.1 other later

/-- A dictionary is in order, in whatever order its entries were given. -/
theorem ascending_of_list (entries : List (String × α)) : Ascending (ofList entries) := by
  have every (kept : Dictionary α) (ascending : Ascending kept) :
      Ascending (entries.foldl (fun kept entry => insert entry.1 entry.2 kept) kept) := by
    induction entries generalizing kept with
    | nil => exact ascending
    | cons entry rest ih => exact ih _ (ascending.insert entry.1 entry.2)
  exact every [] List.Pairwise.nil

theorem mem_of_mem_insert {name : String} {value : α} {entries : Dictionary α} {entry : String × α}
    (member : entry ∈ insert name value entries) : entry = (name, value) ∨ entry ∈ entries := by
  fun_induction Dictionary.insert name value entries with
  | case1 => exact .inl (List.mem_singleton.mp member)
  | case2 first kept rest _ => exact List.mem_cons.mp member
  | case3 kept rest _ =>
    exact (List.mem_cons.mp member).imp_right (List.mem_cons_of_mem _)
  | case4 first kept rest _ _ ih =>
    rcases List.mem_cons.mp member with rfl | later
    · exact .inr List.mem_cons_self
    · exact (ih later).imp_right (List.mem_cons_of_mem _)

/-- A dictionary holds no entries but those that were given. -/
theorem mem_of_mem_of_list {entries : List (String × α)} {entry : String × α}
    (member : entry ∈ ofList entries) : entry ∈ entries := by
  have every (kept : Dictionary α)
      (among : entry ∈ entries.foldl (fun kept entry => insert entry.1 entry.2 kept) kept) :
      entry ∈ kept ∨ entry ∈ entries := by
    clear member
    induction entries generalizing kept with
    | nil => exact .inl among
    | cons first rest ih =>
      rcases ih _ among with inserted | later
      · rcases mem_of_mem_insert inserted with rfl | before
        · exact .inr List.mem_cons_self
        · exact .inl before
      · exact .inr (List.mem_cons_of_mem _ later)
  exact (every [] member).resolve_left List.not_mem_nil

/-- An entry whose name is behind all others comes last. -/
theorem insert_last {name : String} {entries : Dictionary α}
    (behind : ∀ entry ∈ entries, entry.1 < name) (value : α) :
    insert name value entries = entries ++ [(name, value)] := by
  induction entries with
  | nil => rfl
  | cons entry rest ih =>
    have below : entry.1 < name := behind entry List.mem_cons_self
    rw [insert, if_neg below.not_gt, if_neg below.ne',
      ih fun other later => behind other (List.mem_cons_of_mem _ later)]
    rfl

/-- Entries that stand in order are a dictionary as they are. -/
theorem Ascending.of_list_eq {entries : Dictionary α} (ascending : Ascending entries) :
    ofList entries = entries := by
  have every (kept : Dictionary α) (ordered : Ascending (kept ++ entries)) :
      entries.foldl (fun kept entry => Dictionary.insert entry.1 entry.2 kept) kept =
        kept ++ entries := by
    clear ascending
    induction entries generalizing kept with
    | nil => exact (List.append_nil kept).symm
    | cons entry rest ih =>
      have behind : ∀ other ∈ kept, other.1 < entry.1 := by
        rw [Ascending, List.map_append, List.pairwise_append] at ordered
        exact fun other member =>
          ordered.2.2 other.1 (List.mem_map_of_mem member) entry.1 List.mem_cons_self
      rw [List.foldl_cons, insert_last behind, ih _ (by rwa [List.append_assoc]),
        List.append_assoc]
      rfl
  exact every [] ascending

/-- In a dictionary in order, the entries are what is found under their names. -/
theorem Ascending.mem_iff_lookup {entries : Dictionary α} (ascending : Ascending entries)
    (name : String) (value : α) : (name, value) ∈ entries ↔ entries.lookup name = some value := by
  constructor
  · intro member
    obtain ⟨before, after, rfl⟩ := List.append_of_mem member
    refine List.lookup_eq_some_iff.mpr ⟨before, after, rfl, fun entry earlier => ?_⟩
    rw [Ascending, List.map_append, List.pairwise_append] at ascending
    have below : entry.1 < name :=
      ascending.2.2 entry.1 (List.mem_map_of_mem earlier) name List.mem_cons_self
    exact bne_iff_ne.mpr below.ne'
  · intro found
    obtain ⟨before, after, rfl, -⟩ := List.lookup_eq_some_iff.mp found
    exact List.mem_append_right before List.mem_cons_self

end TrustFederation.Text.Dictionary
