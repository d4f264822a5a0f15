import TrustFederation.Proofs.Crawl.Invariant
/-!
# The published version of a crawl

A crawl publishes its version after it has run. From then on the published version is a chart
of what the client answered, below a configuration of the anchor, until another version is
published.
-/
namespace TrustFederation.Crawl

open Text (sameAscii)
open TrustFederation.Tree (Generation Store)

variable {σ : Type} {client : Client σ} {policy : Policy} {anchor : String}

/-- The published version of the store has been built and published by a crawl below the
anchor. -/
inductive Published (client : Client σ) (policy : Policy) (anchor : String) :
    StatementStore → Prop where
  /-- A crawl publishes a version that is newer than the published one. -/
  | hook {state : State σ} {version : Tree.Version} (crawling : Crawling client policy anchor state)
      (begun : state.report.version = some version) (newer : state.store.current < version) :
      Published client policy anchor (state.report.publish state.store)
  /-- Later operations leave this version published and as it is. -/
  | later {store : StatementStore} (op : Store.Op Statement)
      (published : Published client policy anchor store)
      (current : (store.apply op).current = store.current)
      (spared : (store.apply op).generation? store.current =
        store.generation? store.current) :
      Published client policy anchor (store.apply op)

/-- A chart of what a client answered, below a configuration of an anchor. -/
structure Grounded (client : Client σ) (anchor : String) (generation : Generation Statement) :
    Prop where
  chart : Chart generation
  anchored : ∀ {statement}, generation.data? generation.root = some statement →
    sameAscii statement.subject anchor = true
  fetched : ∀ {node statement}, generation.data? node = some statement →
    Fetched client statement

theorem Building.grounded {state : State σ} {version : Tree.Version}
    {generation : Generation Statement}
    (building : Building client anchor state version generation) :
    Grounded client anchor generation :=
  ⟨building.chart, building.anchored, building.fetched⟩

/-- What a crawl has published is grounded. -/
theorem Published.grounded {store : StatementStore}
    (published : Published client policy anchor store) :
    ∃ generation, store.generation? store.current = some generation ∧
      Grounded client anchor generation := by
  induction published with
  | @hook state version crawling begun newer =>
    rcases crawling.invariant.phase with opening | ⟨number, generation, building⟩
    · rw [opening.unbegun] at begun
      cases begun
    · obtain rfl : number = version := Option.some.inj (building.begun.symm.trans begun)
      refine ⟨generation, ?_, building.grounded⟩
      rw [Report.publish, begun, Store.current_publish newer building.held,
        Store.generation_publish_self, building.held]
  | @later store op _ current spared ih =>
    obtain ⟨generation, held, grounded⟩ := ih
    exact ⟨generation, by rw [current, spared, held], grounded⟩

/-- A store with a published version counts its versions. -/
theorem Published.numbered {store : StatementStore}
    (published : Published client policy anchor store) : store.Numbered := by
  induction published with
  | @hook state version crawling begun newer =>
    rw [Report.publish, begun]
    exact crawling.invariant.numbered.publish version
  | later op _ _ _ ih => exact ih.apply op

end TrustFederation.Crawl
