import TrustFederation.Client.Web
import TrustFederation.Proofs.Crawl.Publication
import TrustFederation.Proofs.Federation.Completeness
/-!
# What an answer to a resolve request attests

A client may answer a crawl with any statements that are read from tokens, and the authorities
among them may say what they like. Still an answer of the resolver attests a chain from the
configuration of the subject to that of the trust anchor, in which each statement is signed by
the next one. The resolver compares neither end of the chain with the request: the shape of the
published tree does this.
-/
namespace TrustFederation.Resolve

open Chain (Linked SelfSigned Timely)
open Jose (KeySet)
open Text (sameAscii)
open TrustFederation.Crawl (Fetched Published)
open TrustFederation.Tree (Generation Node Trail)

/-- Every statement that the client answers with is read from a token. -/
def Decodes {σ : Type} (client : Client σ) : Prop :=
  ∀ statement, Fetched client statement → ∃ token, Statement.ofToken token = .ok statement

/-- The client that asks the web reads every statement from a token. -/
theorem web_decodes {σ : Type} (web : Client.Web σ) : Decodes web.client := by
  have asked (request : Client.Request) (address : Except Failure String)
      (world : Client.WebState σ) (statement : Statement)
      (answer : (web.ask request address (fun _ => Statement.ofToken) world).1 = .ok statement) :
      ∃ token, Statement.ofToken token = .ok statement := by
    unfold Client.Web.ask at answer
    cases address with
    | error failure => cases answer
    | ok url =>
      cases found : web.body url request.useCached world with
      | mk body next =>
        simp only [found] at answer
        cases body with
        | error failure => cases answer
        | ok text => exact ⟨text, answer⟩
  intro statement fetched
  cases fetched with
  | configuration request world answer => exact asked request _ world statement answer
  | subordinate request world answer => exact asked request _ world statement answer

/-- The claims of an answer attest a chain for a request at a time. -/
structure Attests (claims : Claims) (trusted : KeySet) (anchor : String) (request : Request)
    (now : Int) (chain : List Statement) : Prop where
  tokens : claims.chain.map Statement.ofToken = chain.map .ok
  leaf : ∃ leaf, chain.head? = some leaf ∧ SelfSigned leaf ∧
    sameAscii leaf.subject request.subject = true ∧ claims.subject = leaf.subject ∧
    ∀ entityType, request.entityType = some entityType → leaf.hasMetadata entityType = true
  links : ∀ position statement next, chain[position]? = some statement →
    chain[position + 1]? = some next → Linked statement next
  anchor : ∃ last, chain.getLast? = some last ∧ SelfSigned last ∧
    sameAscii last.subject anchor = true ∧ last.verify trusted = .ok ()
  timely : ∀ statement ∈ chain, Timely now statement

namespace Resolver

/-- The candidate chain for a request begins with the wanted configuration. -/
theorem candidate_head {resolver : Resolver} {request : Request}
    {generation : Generation Statement} {nodes : List Node} {wanted : Node} {leaf : Statement}
    (trail : Trail generation.children nodes generation.root wanted)
    (stored : generation.data? wanted = some leaf)
    (kept : resolver.isBetween request leaf = false) :
    ((nodes.filterMap generation.data?).filter fun statement =>
        !resolver.isBetween request statement).reverse.head? = some leaf := by
  obtain ⟨before, rfl⟩ := List.getLast?_eq_some_iff.mp trail.last_eq
  rw [List.filterMap_append, List.filterMap_cons_some stored, List.filter_append,
    List.filterMap_nil, List.filter_cons_of_pos (by simp [kept]), List.head?_reverse]
  simp

/-- The candidate chain for a request ends with the root, unless this is left out. -/
theorem candidate_last {resolver : Resolver} {request : Request}
    {generation : Generation Statement} {nodes : List Node} {wanted : Node} {root : Statement}
    (trail : Trail generation.children nodes generation.root wanted)
    (topmost : generation.data? generation.root = some root)
    (kept : resolver.isBetween request root = false) :
    ((nodes.filterMap generation.data?).filter fun statement =>
        !resolver.isBetween request statement).reverse.getLast? = some root := by
  obtain ⟨after, rfl⟩ := List.head?_eq_some_iff.mp trail.head_eq
  rw [List.filterMap_cons_some topmost, List.filter_cons_of_pos (by simp [kept]),
    List.getLast?_reverse, List.head?_cons]

/-- Whatever the authorities of a federation say, an answer of the resolver attests a chain that
leads from the configuration of the subject to the trust anchor, and each statement of which is
signed by the next one.

Proof: the published version is a chart of what the client answered. The candidate chain is the
trail to the wanted configuration, so its first statement is the one that the search asked for
and its last one is the root, which is about the anchor. The rules on signatures and times have
found nothing wrong with it. A statement that was read from a token is the one in its token. -/
theorem attests_of_resolve {σ : Type} {client : Client σ} {policy : Crawl.Policy}
    {resolver : Resolver} {trusted : KeySet} {store : Tree.Store Statement} {request : Request}
    {now : Int} {answer : Answer} (decodes : Decodes client)
    (rules : resolver.rules = Chain.standardRules trusted)
    (published : Published client policy resolver.trustAnchor store)
    (answered : resolver.resolve store request now = .ok answer) :
    ∃ chain, Attests answer.claims trusted resolver.trustAnchor request now chain := by
  obtain ⟨generation, held, grounded⟩ := published.grounded
  obtain ⟨chain, candidate, made⟩ := candidate_of_resolve answered
  obtain ⟨valid, tokens, subject, -⟩ := claims_of_answer made
  by_cases present : ∃ node leaf, generation.data? node = some leaf ∧ Wanted request leaf
  case neg =>
    have absent := find_chain_of_unwanted resolver grounded.chart held request
      fun node statement stored wanted => present ⟨node, statement, stored, wanted⟩
    rw [absent] at candidate
    cases candidate
  case pos =>
    obtain ⟨node, leaf, stored, wanted⟩ := present
    obtain ⟨nodes, trail, found⟩ := find_chain_of_wanted resolver grounded.chart held stored wanted
    obtain ⟨root, topmost⟩ := grounded.chart.grown.root_data
    have root_about : sameAscii root.subject resolver.trustAnchor = true :=
      grounded.anchored topmost
    have head := candidate_head trail stored (not_between_of_subject resolver wanted.about)
    have root_kept : resolver.isBetween request root = false :=
      not_between_of_anchor request root_about
    have last := candidate_last trail topmost root_kept
    obtain rfl : chain = _ := Except.ok.inj (candidate.symm.trans found)
    rw [rules] at valid
    obtain ⟨-, timely, first, anchored, links⟩ :=
      (Chain.signature_violations_nil_iff _ _ _).mp (Chain.signatures_of_valid valid)
    rw [head] at subject
    refine ⟨_, ?_, ⟨leaf, head, first leaf head, wanted.about, ?_, wanted.typed⟩, links,
      ⟨root, last, (anchored root last).1, root_about, (anchored root last).2⟩, timely⟩
    · rw [tokens, List.map_map]
      apply List.map_congr_left
      intro statement member
      rw [List.mem_reverse, List.mem_filter, List.mem_filterMap] at member
      obtain ⟨⟨place, -, there⟩, -⟩ := member
      obtain ⟨token, read⟩ := decodes statement (grounded.fetched there)
      exact Statement.of_token_of_token read
    · exact (Option.some.inj subject).symm

/-- The client of the pair reads every statement from a token. -/
theorem pair_decodes : Decodes Federation.pairClient := by
  intro statement fetched
  cases fetched with
  | configuration request world answer =>
    obtain ⟨subject, declared⟩ := Federation.pair_declares_of_answer answer
    exact ⟨statement.token, declared.read⟩
  | subordinate request world answer =>
    obtain ⟨subject, declared⟩ := Federation.pair_declares_of_answer answer
    exact ⟨statement.token, declared.read⟩

/-- After the pair has been crawled, two steps at a time and the later one first, the resolver
answers for the entity that the authority lists, and its answer attests a chain. -/
theorem attests_of_resolve_pair :
    let policy : Crawl.Policy := ⟨.concurrent 2, .deferred 3, 1⟩
    let request : Request := ⟨"B", "A", none⟩
    let final := (Crawl.State.start "a" (Tree.Store.empty 1) ()).run Federation.pairClient policy
      (fun _ => 1) 6
    let store := final.report.publish final.store
    ∃ answer, Federation.pairResolver.resolve store request 2 = .ok answer ∧
      ∃ chain, Attests answer.claims (Federation.namesakeKeys "a") "a" request 2 chain := by
  intro policy request final store
  have crawling : Crawl.Crawling Federation.pairClient policy "a" final :=
    (Crawl.Crawling.start 1 [] ()).run _ 6
  have published : Published Federation.pairClient policy "a" store :=
    .hook crawling (show final.report.version = some 1 by decide +kernel)
      (show final.store.current < 1 by decide +kernel)
  have start : "a" ∈ Federation.pair.entities := List.mem_cons_self
  obtain ⟨-, generation, covers⟩ := Federation.covers_of_run Federation.pair_serves
    Federation.pair_honest start policy (fun _ => 1) (show 3 * 2 ≤ 6 by decide)
    (Tree.Store.numbered_empty 1) ()
  have anchored : Federation.pairResolver.trustAnchor = "a" := rfl
  have asked : sameAscii request.trustAnchor "a" = true := by decide
  have reaches : Federation.pair.Reaches "a" "b" := .listed .anchor List.mem_cons_self
  obtain ⟨others, answer, -, answered, -⟩ := covers.resolves Federation.pair_honest
    Federation.pair_legible start anchored rfl (Federation.namesake_holds "a") (by decide)
    (by decide) (by decide) asked reaches ⟨by decide, fun entityType typed => by cases typed⟩
  exact ⟨answer, answered, attests_of_resolve pair_decodes rfl published answered⟩

end Resolver

end TrustFederation.Resolve
