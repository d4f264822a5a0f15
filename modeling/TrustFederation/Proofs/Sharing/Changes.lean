import TrustFederation.Proofs.Sharing.Ownership
/-!
# The changes that a step makes

Between two operations of a step others have their turn, so the step cannot know what it will find.
Whatever it finds, a step that fails has made no change to the store, and one that succeeds has made
the changes of one effect: it allocated a version, it made none, or it attached one statement. For
all that can fail comes before the first change.
-/
namespace TrustFederation.Sharing

open Crawl
open TrustFederation.Tree (Node NodeKey Store Version)

variable {σ α β : Type}

/-! ## What a program ends with -/

/-- Whatever it finds, a program ends with good changes and a good result. The changes are given
oldest first. -/
def Program.Ends (good : List (Store.Op Statement) → α → Prop) : Program σ α → Prop
  | .done result => good [] result
  | .ask _ next => ∀ world, (next world).Ends good
  | .look next => ∀ store, (next store).Ends good
  | .change op next => ∀ store, (next store).Ends fun ops => good (op :: ops)

namespace Program

variable {good : List (Store.Op Statement) → α → Prop} {program : Program σ α}

theorem Ends.mono {other : List (Store.Op Statement) → α → Prop} (ends : program.Ends good)
    (weaker : ∀ ops result, good ops result → other ops result) : program.Ends other := by
  induction program generalizing good other with
  | done result => exact weaker [] result ends
  | ask after next ih => exact fun world => ih world (ends world) weaker
  | look next ih => exact fun store => ih store (ends store) weaker
  | change op next ih => exact fun store => ih store (ends store) fun ops => weaker (op :: ops)

/-- The changes of a program in two parts are those of the first part and then those of the rest. -/
theorem Ends.bind {use : α → Program σ β} {last : List (Store.Op Statement) → β → Prop}
    (ends : program.Ends fun ops value => (use value).Ends fun later => last (ops ++ later)) :
    (program >>= use).Ends last := by
  induction program generalizing last with
  | done result => exact ends
  | ask after next ih => exact fun world => ih world (ends world)
  | look next ih => exact fun store => ih store (ends store)
  | change op next ih => exact fun store => ih store (ends store)

/-- One operation of a program, and then what is left of it. -/
theorem Ends.act (ends : program.Ends good) (store : StatementStore) (world : σ) :
    (program.act store world).1.Ends fun ops => good (program.op?.toList ++ ops) := by
  cases program with
  | done result => exact ends
  | ask after next => exact ends world
  | look next => exact ends store
  | change op next => exact ends (store.apply op)

/-- The operations of a program, one for each store and world that it finds. Given are the changes
that it makes, oldest first, and what is left of it. -/
def course (program : Program σ α) :
    List (StatementStore × σ) → List (Store.Op Statement) × Program σ α
  | [] => ([], program)
  | (store, world) :: later =>
    let (ops, left) := (program.act store world).1.course later
    (program.op?.toList ++ ops, left)

/-- A program that is done has made good changes and has a good result. -/
theorem Ends.of_course (ends : program.Ends good) {found : List (StatementStore × σ)}
    {ops : List (Store.Op Statement)} {result : α} (ended : program.course found = (ops, .done result)) :
    good ops result := by
  induction found generalizing program good ops with
  | nil =>
    obtain ⟨rfl, rfl⟩ := Prod.mk.inj ended
    exact ends
  | cons place later ih =>
    obtain ⟨rfl, rest⟩ := Prod.mk.inj ended
    exact ih (ends.act place.1 place.2) (Prod.ext rfl rest)

/-- A program that may use no change makes none. -/
theorem Uses.ends {fine : α → Prop} (uses : program.Uses (fun _ => False) fine) :
    program.Ends fun ops result => ops = [] ∧ fine result := by
  induction program with
  | done result => exact ⟨rfl, uses⟩
  | ask after next ih => exact fun world => ih world (uses world)
  | look next ih => exact fun store => ih store (uses store)
  | change op next ih => exact uses.1.elim

end Program

/-! ## What a step ends with -/

/-- No change, or changes and a value that fit. -/
def Sound (fit : List (Store.Op Statement) → α → Prop) (ops : List (Store.Op Statement)) :
    Except Failure α → Prop
  | .ok value => fit ops value
  | .error _ => ops = []

/-- A part that makes no change may fail before the rest. -/
theorem ends_after {routine : Routine σ α} {use : α → Routine σ β} {fine : α → Prop}
    {fit : List (Store.Op Statement) → β → Prop}
    (quiet : routine.run.Uses (fun _ => False) (Yields fine))
    (rest : ∀ value, fine value → (use value).run.Ends (Sound fit)) :
    (routine >>= use).run.Ends (Sound fit) := by
  apply Program.Ends.bind
  apply quiet.ends.mono
  rintro ops result ⟨rfl, yields⟩
  cases result with
  | error failure => exact rfl
  | ok value => exact rest value yields

/-- The node of a child is attached, and then it is given its data. -/
theorem add_child_ends (bound : Nat) (node : Node) (parent : String) (data : Statement)
    (version : Version) :
    (addChild (σ := σ) bound node parent data version).run.Ends
      (Sound fun ops _ => ∃ found, ops = [.append node found version, .setData node data version]) := by
  apply ends_after (uses_root version)
  intro root _
  cases root with
  | none => exact rfl
  | some root =>
    apply ends_after (uses_lift (uses_find_node version parent bound root))
    intro found _
    cases found with
    | none => exact rfl
    | some found => exact fun _ _ => ⟨found, rfl⟩

/-- The changes that a step that succeeds has made, and its output. -/
inductive Changes (version : Option Version) :
    Step → List (Store.Op Statement) → Output → Prop where
  | started {entity : String} {configuration : Statement} {key : NodeKey} {number : Version}
      (keyed : configuration.nodeKey = .ok key) :
      Changes version (.resolveRoot entity) [.create key.text configuration]
        ⟨some number, [.listSubordinates configuration]⟩
  | listed {authority : Statement} {next : List Step} :
      Changes version (.listSubordinates authority) [] ⟨none, next⟩
  | subordinate {filled : Version} {authority statement : Statement} {subordinate : String}
      {key : NodeKey} (found : Node) (begun : version = some filled)
      (keyed : statement.nodeKey = .ok key) :
      Changes version (.fetchSubordinate authority subordinate)
        [.append key.text found filled, .setData key.text statement filled]
        ⟨none, [.fetchConfiguration statement]⟩
  | configuration {filled : Version} {statement configuration : Statement} {key : NodeKey}
      (found : Node) (begun : version = some filled) (keyed : configuration.nodeKey = .ok key) :
      Changes version (.fetchConfiguration statement)
        [.append key.text found filled, .setData key.text configuration filled]
        ⟨none, [.listSubordinates configuration]⟩

/-- Attaching a statement fails without a change, or it makes the two changes for its node. -/
theorem attach_ends (bound : Nat) (version : Version) (parent statement : Statement) (next : Step)
    {fit : List (Store.Op Statement) → Output → Prop}
    (fits : ∀ key found, statement.nodeKey = .ok key →
      fit [.append key.text found version, .setData key.text statement version] ⟨none, [next]⟩) :
    (attach (σ := σ) bound version parent statement next).run.Ends (Sound fit) := by
  apply ends_after (uses_except parent.nodeKey)
  intro parentKey _
  cases keyed : statement.nodeKey with
  | error failure => exact rfl
  | ok key =>
    show (addChild (σ := σ) bound key.text parentKey.text statement version >>= _).run.Ends _
    apply Program.Ends.bind
    apply (add_child_ends bound key.text parentKey.text statement version).mono
    intro ops result made
    cases result with
    | error failure => exact made ▸ rfl
    | ok _ =>
      obtain ⟨found, rfl⟩ := made
      exact fits key found keyed

/-- Whatever others do between its operations, a step that fails has changed nothing, and one that
succeeds has made the changes of one effect. -/
theorem routine_ends (client : Client σ) (bound : Nat) (step : Step) (useCached : Bool)
    (version : Option Version) :
    (routine client bound step useCached version).run.Ends (Sound (Changes version step)) := by
  cases step with
  | resolveRoot entity =>
    apply ends_after (uses_request _)
    intro configuration _
    apply ends_after (uses_except (checkStatement configuration entity entity))
    intro _ _
    cases keyed : configuration.nodeKey with
    | error failure => exact rfl
    | ok key => exact fun _ => .started keyed
  | listSubordinates authority =>
    simp only [routine]
    cases authority.endpoints?.filter (·.canListSubordinates) with
    | none => exact .listed
    | some endpoints =>
      apply ends_after (uses_request _)
      exact fun _ _ => .listed
  | fetchSubordinate authority subordinate =>
    cases version with
    | none => exact rfl
    | some filled =>
      simp only [routine, requireVersion]
      cases authority.endpoints? with
      | none => exact rfl
      | some endpoints =>
        apply ends_after (uses_request _)
        intro statement _
        apply ends_after (uses_except (checkStatement statement authority.subject subordinate))
        intro _ _
        exact attach_ends bound filled authority statement _ fun _ found keyed =>
          .subordinate found rfl keyed
  | fetchConfiguration statement =>
    cases version with
    | none => exact rfl
    | some filled =>
      apply ends_after (uses_request _)
      intro configuration _
      apply ends_after (uses_except (checkStatement configuration statement.subject statement.subject))
      intro _ _
      exact attach_ends bound filled statement configuration _ fun _ found keyed =>
        .configuration found rfl keyed

end TrustFederation.Sharing
