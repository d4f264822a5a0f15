import TrustFederation.Proofs.Resolve.Soundness
import TrustFederation.Proofs.Sharing.Finality
import TrustFederation.Proofs.Tree.Views
/-!
# Answers that a publication overtakes

A request is resolved while crawls go on. The resolver asks for the published version once and then
reads this version only, and nothing writes to it any more; but a publication may collect it between
two reads. Statements that are gone when they are read are left out, and what has been read before
makes a chain all the same: its statements are those next to the anchor. So the answer is about the
subject asked for if the version is held until the last read, and otherwise it may be about an
authority above this subject.
-/
namespace TrustFederation

open TrustFederation.Tree (Store Version)

/-! ## Crawls between the reads -/

namespace Sharing

variable {ι σ : Type} [DecidableEq ι]

/-- The system at each read, when the given moves follow the read of a number. -/
def System.course (crew : ι → Crawler σ) (system : System ι σ) (moves : Nat → List (Move ι)) :
    Nat → System ι σ
  | 0 => system
  | read + 1 => (system.course crew moves read).run crew (moves read)

/-- Between two reads, moves are operations on the store that do not write to a settled version. -/
theorem Kept.course_views {first : Store Statement} {system : System ι σ}
    {owned : ι → Option Version} {version : Version} (kept : Kept first system owned)
    (settled : Settled system owned version) (crew : ι → Crawler σ)
    (moves : Nat → List (Move ι)) :
    ∃ between, Store.Spares between version ∧
      (fun read => (system.course crew moves read).store) = system.store.views between := by
  have reached (read : Nat) : ∃ next, Kept first (system.course crew moves read) next ∧
      Settled (system.course crew moves read) next version := by
    induction read with
    | zero => exact ⟨owned, kept, settled⟩
    | succ read ih =>
      obtain ⟨next, still, quiet⟩ := ih
      obtain ⟨after, ended, passed⟩ := still.run crew (moves read)
      exact ⟨after, ended, (passed.settled quiet).1⟩
  have each (read : Nat) : ∃ ops, (system.course crew moves (read + 1)).store =
      (system.course crew moves read).store.applyAll ops ∧ ∀ op ∈ ops, ¬ op.Into version := by
    obtain ⟨next, still, quiet⟩ := reached read
    exact still.run_spares quiet crew (moves read)
  choose between made spares using each
  refine ⟨between, spares, funext fun read => ?_⟩
  induction read with
  | zero => rfl
  | succ read ih => exact (made read).trans (congrArg (·.applyAll (between read)) ih)

end Sharing

/-! ## What is found while crawls publish -/

namespace Resolve.Resolver

open Chain (SelfSigned)
open Federation (pair pairClient pairResolver pairStatement)
open Jose (KeySet)
open Text (sameAscii)
open TrustFederation.Crawl (Chart Published)
open TrustFederation.Tree (Found Generation Node Store Through Trail Version gives_search
  readEntry read_entries_fade viewing)

variable {store : Store Statement} {between : Nat → List (Store.Op Statement)}
  {generation : Generation Statement} {bound : Version → Nat} {resolver : Resolver}
  {request : Request}

/-- Statements that are absent add nothing to a chain. -/
theorem chain_of_missing (resolver : Resolver) (request : Request) (seen : List String)
    (entries : List (Node × Option Statement)) (missing : List Found) :
    resolver.chainOf request seen (entries ++ missing.map fun result => (result.node, none)) =
      resolver.chainOf request seen entries := by
  induction entries generalizing seen with
  | nil =>
    induction missing with
    | nil => rfl
    | cons result rest ih => exact ih
  | cons entry rest ih =>
    obtain ⟨node, _ | statement⟩ := entry
    · exact ih seen
    · simp only [List.cons_append, chainOf, ih]

/-- How the candidate chain is made from what is read one after the other: the published version,
the results of a search, and their data. -/
theorem find_chain_viewing (resolver : Resolver) (store : Store Statement)
    (between : Nat → List (Store.Op Statement)) (bound : Version → Nat) (request : Request) :
    let views := store.views between
    let found := Tree.search (viewing views) store.current (bound store.current)
      (isWanted request) true 1
    let entries := found.1.mapM (readEntry views store.current) found.2
    resolver.findChain (viewing views) bound request 0 =
      (match resolver.chainOf request [] entries.1 with
        | [] => .error (.notFound ("No trust chain for " ++ request.subject))
        | first :: rest => .ok (first :: rest).reverse, entries.2) := by
  intro views found entries
  have run : resolver.findChain (viewing views) bound request 0 =
      (match resolver.chainOf request [] entries.1 with
        | [] => pure (.error (.notFound ("No trust chain for " ++ request.subject)))
        | first :: rest => pure (.ok (first :: rest).reverse) :
          StateM Nat (Except Failure (List Statement))) entries.2 := rfl
  rw [run]
  cases resolver.chainOf request [] entries.1 <;> rfl

/-- A chain that is found is what has been collected for it, turned round. -/
theorem reversed_of_answered {statements chain : List Statement} {failure : Failure}
    (answered : (match statements with
      | [] => .error failure
      | first :: rest => .ok (first :: rest).reverse) = Except.ok chain) :
    statements ≠ [] ∧ statements.reverse = chain := by
  cases statements with
  | nil => cases answered
  | cons first rest => exact ⟨List.cons_ne_nil first rest, Except.ok.inj answered⟩

/-- A chain that is found while the store changes is made of the first results of the search at rest,
and of all of them if the version is held until the last read.

Proof: if the version were gone when the first statement is read, no statement would be read at
all. So the search has run while the version was held, and has found what it finds at rest. The
statements are then read from the root on, until the version is gone. -/
theorem results_of_viewing (knows : store.Knows store.current)
    (spares : Store.Spares between store.current) (chart : Chart generation)
    (held : store.generation? store.current = some generation)
    (room : store.pathBound store.current ≤ bound store.current) {chain : List Statement}
    {reads : Nat}
    (found : resolver.findChain (viewing (store.views between)) bound request 0 =
      (.ok chain, reads)) :
    let results := store.search store.current (isWanted request) true
    ∃ kept, chain ≠ [] ∧
      (resolver.chainOf request [] ((results.take kept).map fun result =>
        (result.node, generation.data? result.node))).reverse = chain ∧
      (Through (store.views between) store.current generation reads → results.length ≤ kept) := by
  intro results
  have whole : generation.edges.length ≤ bound store.current := by
    rwa [Store.pathBound, held] at room
  have searched := gives_search (store.views between) held chart.grown whole (isWanted request)
    true 1
  rw [find_chain_viewing] at found
  generalize Tree.search (viewing (store.views between)) store.current (bound store.current)
    (isWanted request) true 1 = search at searched found
  obtain ⟨seen, start⟩ := search
  obtain ⟨answered, ends⟩ := Prod.mk.inj found
  obtain ⟨kept, entries, first, all⟩ := read_entries_fade knows spares held seen start
  rw [ends] at all
  rw [entries, chain_of_missing] at answered
  have some_kept : 0 < kept := by
    by_contra none_kept
    obtain rfl : kept = 0 := Nat.eq_zero_of_not_pos none_kept
    cases answered
  obtain rfl : seen = results := by
    apply searched
    intro read earlier
    exact knows.held_before spares (Nat.le_of_lt earlier) (first some_kept)
  obtain ⟨nonempty, reversed⟩ := reversed_of_answered answered
  refine ⟨kept, ?_, reversed, all⟩
  rw [← reversed]
  simpa using nonempty

/-- A chain that is found while the store changes is the upper end of the candidate chain that the
store at rest gives, and all of it if the version is held until the last read. -/
theorem candidate_of_viewing (knows : store.Knows store.current)
    (spares : Store.Spares between store.current) (chart : Chart generation)
    (held : store.generation? store.current = some generation)
    (room : store.pathBound store.current ≤ bound store.current) {chain : List Statement}
    {reads : Nat}
    (found : resolver.findChain (viewing (store.views between)) bound request 0 =
      (.ok chain, reads)) :
    ∃ leaf candidate, Wanted request leaf ∧
      resolver.findChain store.reads store.pathBound request = .ok candidate ∧
      candidate.head? = some leaf ∧
      chain <:+ candidate ∧ chain ≠ [] ∧
      (Through (store.views between) store.current generation reads → chain = candidate) := by
  obtain ⟨kept, nonempty, made, all⟩ := results_of_viewing knows spares chart held room found
  by_cases present : ∃ node leaf, generation.data? node = some leaf ∧ Wanted request leaf
  case neg =>
    rw [search_of_unwanted chart held request fun node statement stored wanted =>
      present ⟨node, statement, stored, wanted⟩, List.take_nil] at made
    exact absurd made.symm nonempty
  case pos =>
    obtain ⟨node, leaf, stored, wanted⟩ := present
    obtain ⟨depth, path⟩ := (chart.grown.data_iff_descent node).mp ⟨leaf, stored⟩
    obtain ⟨nodes, trail⟩ := Trail.of_descent path
    have reported := search_of_trail chart held trail stored wanted
    have apart : ((nodes.take kept).map Text.lowercase).Nodup :=
      (trail_apart chart trail).sublist ((List.take_sublist kept nodes).map _)
    rw [reported, List.map_take, entries_of_trail, ← List.map_take,
      chain_of_nodes resolver request _ [] apart (by simp)] at made
    have upper : (nodes.take kept).filterMap generation.data? <+: nodes.filterMap generation.data? :=
      (List.take_prefix kept nodes).filterMap _
    refine ⟨leaf, _, wanted, find_chain_of_trail resolver chart held trail stored wanted,
      candidate_head trail stored (not_between_of_subject resolver wanted.about), ?_, nonempty,
      fun through => ?_⟩
    · rw [← made]
      exact List.reverse_suffix.mpr (upper.filter _)
    · have enough := all through
      rw [reported, List.length_map, List.length_zipIdx] at enough
      rw [← made, List.take_of_length_le enough]

/-- An answer has been made from a chain that has been found with the same reads. -/
theorem chain_of_viewing {views : Nat → Store Statement} {now : Int} {answer : Answer} {reads : Nat}
    (answered : resolver.resolveWith (viewing views) bound request now 0 = (.ok answer, reads)) :
    ∃ chain, resolver.findChain (viewing views) bound request 0 = (.ok chain, reads) ∧
      resolver.answerOf request now chain = .ok answer := by
  unfold resolveWith at answered
  cases anchored : resolver.checkTrustAnchor request.trustAnchor with
  | error failure =>
    rw [anchored] at answered
    cases answered
  | ok _ =>
    by_cases empty : request.subject.isEmpty = true
    · rw [anchored, if_pos empty] at answered
      cases answered
    · rw [anchored, if_neg empty] at answered
      obtain ⟨made, ends⟩ := Prod.mk.inj answered
      obtain ⟨chain, found, signed⟩ := bind_ok_iff.mp made
      exact ⟨chain, Prod.ext (map_error_ok_iff.mp found) ends, signed⟩

/-- An answer that is given while crawls publish is made from the upper end of the candidate chain
for the subject, and its subject is that of the lowest statement on it, a configuration. If the
version that the resolver reads is held until the last read, this is the configuration asked for.

Proof: what is published is a chart to which nothing writes, so the chain found is such an upper
end. The rules have found nothing wrong with it, so its first statement is signed by its own
subject. -/
theorem upper_end_of_viewing {σ : Type} {client : Client σ} {policy : Crawl.Policy}
    {trusted : KeySet} {now : Int} {answer : Answer} {reads : Nat}
    (rules : resolver.rules = Chain.standardRules trusted)
    (published : Published client policy resolver.trustAnchor store)
    (spares : Store.Spares between store.current)
    (room : store.pathBound store.current ≤ bound store.current)
    (answered : resolver.resolveWith (viewing (store.views between)) bound request now 0 =
      (.ok answer, reads)) :
    ∃ candidate chain first,
      resolver.findChain store.reads store.pathBound request = .ok candidate ∧
      chain <:+ candidate ∧ chain.head? = some first ∧ SelfSigned first ∧
      answer.claims.subject = first.subject ∧ answer.claims.chain = chain.map (·.token) ∧
      (((store.views between (reads - 1)).generation? store.current).isSome →
        chain = candidate ∧ Wanted request first) := by
  obtain ⟨generation, held, grounded⟩ := published.grounded
  have knows : store.Knows store.current := ⟨published.numbered, published.numbered.published⟩
  obtain ⟨chain, found, made⟩ := chain_of_viewing answered
  obtain ⟨leaf, candidate, wanted, at_rest, lowest, upper, nonempty, whole⟩ :=
    candidate_of_viewing knows spares grounded.chart held room found
  obtain ⟨valid, tokens, subject, -⟩ := claims_of_answer made
  obtain ⟨first, rest, rfl⟩ := List.exists_cons_of_ne_nil nonempty
  rw [rules] at valid
  obtain ⟨-, -, own, -, -⟩ :=
    (Chain.signature_violations_nil_iff _ _ _).mp (Chain.signatures_of_valid valid)
  refine ⟨candidate, first :: rest, first, at_rest, upper, rfl, own first rfl,
    (Option.some.inj subject).symm, tokens, fun still => ?_⟩
  have through : Through (store.views between) store.current generation reads := by
    intro read earlier
    obtain ⟨other, last⟩ := Option.isSome_iff_exists.mp still
    have same := knows.held_before spares (Nat.zero_le _) last
    obtain rfl : other = generation := Option.some.inj (same.symm.trans held)
    exact knows.held_before spares (Nat.le_sub_one_of_lt earlier) last
  have all := whole through
  rw [← all] at lowest
  obtain rfl : first = leaf := Option.some.inj lowest
  exact ⟨all, wanted⟩

/-! ## Answers while crawls publish -/

open TrustFederation.Sharing (Crawler Move System)

/-- A request is resolved while crawls share the store and publish, and their requests and
operations fall between the reads of the resolver in any way. An answer is made from the upper end of
the candidate chain for the subject, and its subject is that of the lowest statement there, a
configuration. If the version that was published at first is held until the last read, this is the
configuration asked for. -/
theorem upper_end_of_answer {ι σ τ : Type} [DecidableEq ι] {client : Client τ}
    {policy : Crawl.Policy} {trusted : KeySet} (crew : ι → Crawler σ) (retained : Nat)
    (prior : List (Store.Op Statement)) (world : σ) (before : List (Move ι))
    (moves : Nat → List (Move ι)) {now : Int} {answer : Answer} {reads : Nat}
    (rules : resolver.rules = Chain.standardRules trusted) :
    let system := (System.start crew ((Store.empty retained).applyAll prior) world).run crew before
    let views := fun read => (system.course crew moves read).store
    Published client policy resolver.trustAnchor system.store →
    system.store.pathBound system.store.current ≤ bound system.store.current →
    resolver.resolveWith (viewing views) bound request now 0 = (.ok answer, reads) →
    ∃ candidate chain first,
      resolver.findChain system.store.reads system.store.pathBound request = .ok candidate ∧
      chain <:+ candidate ∧ chain.head? = some first ∧ SelfSigned first ∧
      answer.claims.subject = first.subject ∧ answer.claims.chain = chain.map (·.token) ∧
      (((views (reads - 1)).generation? system.store.current).isSome →
        chain = candidate ∧ Wanted request first) := by
  intro system views published room answered
  have numbered := Store.numbered_apply_all (α := Statement) retained prior
  obtain ⟨owned, kept, -⟩ := (Sharing.kept_start crew numbered world).run crew before
  obtain ⟨between, spares, same⟩ :=
    kept.course_views (kept.settled_current numbered) crew moves
  have seen : views = system.store.views between := same
  rw [seen] at answered ⊢
  exact upper_end_of_viewing rules published spares room answered

/-! ### A crawl that overtakes a request -/

/-- The pair is crawled one step after the other. -/
def pairPolicy : Crawl.Policy := ⟨.sequential, .drop, 1⟩

/-- What a first crawl of the pair does to the store. -/
def pairOps : List (Store.Op Statement) :=
  [.create "a!a" (pairStatement "a" "a"),
    .append "a!b" "a!a" 1, .setData "a!b" (pairStatement "a" "b") 1,
    .append "b!b" "a!b" 1, .setData "b!b" (pairStatement "b" "b") 1, .publish 1]

/-- The pair is crawled a second time. -/
def pairCrew (_ : Unit) : Crawler Unit := ⟨pairClient, pairPolicy, "a"⟩

/-- After the first crawl and before the second one. -/
def pairSystem (retained : Nat) : System Unit Unit :=
  System.start pairCrew ((Store.empty retained).applyAll pairOps) ()

/-- All of the second crawl falls between two reads, when the root has been read for the chain and
what stands below it has not. -/
def overtaking (read : Nat) : List (Move Unit) :=
  if read = 8 then
    (List.replicate 5 (.send () 3 :: (List.replicate 6 (.act () 0) ++ [.land () 0]))).flatten ++
      [.publish ()]
  else []

/-- When the first crawl has nothing left to do. -/
def pairCrawled (retained : Nat) : Crawl.State Unit :=
  (Crawl.State.start "a" (Store.empty retained) ()).run pairClient pairPolicy (fun _ => 0) 6

theorem pair_published {retained : Nat} (among : retained ∈ [1, 2]) :
    Published pairClient pairPolicy "a" (pairSystem retained).store := by
  have crawling : Crawl.Crawling pairClient pairPolicy "a" (pairCrawled retained) :=
    (Crawl.Crawling.start retained [] ()).run (fun _ => 0) 6
  have begun : ∀ retained ∈ [1, 2], (pairCrawled retained).report.version = some 1 := by
    decide +kernel
  have newer : ∀ retained ∈ [1, 2], (pairCrawled retained).store.current < 1 := by decide +kernel
  have made : (pairCrawled retained).report.publish (pairCrawled retained).store =
      (pairSystem retained).store := by
    rcases List.mem_pair.mp among with rfl | rfl
    · rfl
    · rfl
  rw [← made]
  exact .hook crawling (begun retained among) (newer retained among)

/-- The chain of a way through the pair gives an answer. -/
theorem pair_answers {views : Nat → Store Statement} {others : List String} {last : String}
    {reads : Nat} (way : pair.Way "a" others last)
    (found : pairResolver.findChain (viewing views) (fun _ => 3) ⟨"B", "A", none⟩ 0 =
      (.ok (pair.endorsed "a" others last).reverse, reads)) :
    ∃ answer, pairResolver.resolveWith (viewing views) (fun _ => 3) ⟨"B", "A", none⟩ 2 0 =
        (.ok answer, reads) ∧
      pairResolver.answerOf ⟨"B", "A", none⟩ 2 (pair.endorsed "a" others last).reverse =
        .ok answer := by
  have valid := way.valid Federation.pair_honest Federation.pair_legible List.mem_cons_self
    (by decide) (Federation.namesake_holds "a")
  have head : (pair.endorsed "a" others last).reverse.head? = some (pair.configuration last) := by
    rw [List.head?_reverse, way.endorsed_last]
  have signs : pairResolver.signer.algorithm.digest?.isSome := by decide
  obtain ⟨answer, made⟩ := answer_of_valid ⟨"B", "A", none⟩ head valid signs (by decide)
  refine ⟨answer, ?_, made⟩
  rw [resolve_with_eq _ _ _ (by decide) (by decide)]
  show (((pairResolver.findChain (viewing views) (fun _ => 3) ⟨"B", "A", none⟩ 0).1.mapError
      .failure).bind (pairResolver.answerOf ⟨"B", "A", none⟩ 2),
    (pairResolver.findChain (viewing views) (fun _ => 3) ⟨"B", "A", none⟩ 0).2) = _
  rw [found]
  exact Prod.ext made rfl

set_option maxRecDepth 10000 in
theorem pair_found_kept :
    pairResolver.findChain
        (viewing fun read => ((pairSystem 2).course pairCrew overtaking read).store)
        (fun _ => 3) ⟨"B", "A", none⟩ 0 =
      (.ok [pairStatement "b" "b", pairStatement "a" "b", pairStatement "a" "a"], 11) := rfl

set_option maxRecDepth 10000 in
theorem pair_found_collected :
    pairResolver.findChain
        (viewing fun read => ((pairSystem 1).course pairCrew overtaking read).store)
        (fun _ => 3) ⟨"B", "A", none⟩ 0 =
      (.ok [pairStatement "a" "a"], 11) := rfl

/-- When the version is kept that was published at first, the answer is about the subject. -/
theorem upper_end_of_answer_pair :
    let request : Request := ⟨"B", "A", none⟩
    let system := pairSystem 2
    let views := fun read => (system.course pairCrew overtaking read).store
    (views 9).current = 2 ∧
    ∃ answer, pairResolver.resolveWith (viewing views) (fun _ => 3) request 2 0 =
        (.ok answer, 11) ∧
      ∃ candidate chain first,
        pairResolver.findChain system.store.reads system.store.pathBound request =
          .ok candidate ∧
        chain <:+ candidate ∧ chain.head? = some first ∧ SelfSigned first ∧
        answer.claims.subject = first.subject ∧ answer.claims.chain = chain.map (·.token) ∧
        chain = candidate ∧ Wanted request first := by
  intro request system views
  have way : pair.Way "a" ["b"] "b" := .down List.mem_cons_self (.here "b")
  obtain ⟨answer, answered, -⟩ := pair_answers way pair_found_kept
  obtain ⟨candidate, chain, first, at_rest, upper, head, own, subject, tokens, whole⟩ :=
    upper_end_of_answer pairCrew 2 pairOps () [] overtaking rfl (pair_published (by decide))
      (show system.store.pathBound system.store.current ≤ 3 by decide +kernel) answered
  obtain ⟨all, wanted⟩ := whole (show ((views 10).generation? system.store.current).isSome = true by
    decide +kernel)
  exact ⟨by decide +kernel, answer, answered, candidate, chain, first, at_rest, upper, head, own,
    subject, tokens, all, wanted⟩

/-- When it is collected in between, the answer to a request for the subordinate is about the trust
anchor. -/
theorem anchor_answers_for_subordinate :
    let request : Request := ⟨"B", "A", none⟩
    let system := pairSystem 1
    let views := fun read => (system.course pairCrew overtaking read).store
    Published pairClient pairPolicy pairResolver.trustAnchor system.store ∧
    ∃ answer, pairResolver.resolveWith (viewing views) (fun _ => 3) request 2 0 =
        (.ok answer, 11) ∧
      answer.claims.subject = "a" ∧ answer.claims.chain = [(pairStatement "a" "a").token] ∧
      sameAscii answer.claims.subject request.subject = false := by
  intro request system views
  obtain ⟨answer, answered, made⟩ := pair_answers (.here "a") pair_found_collected
  obtain ⟨-, tokens, subject, -⟩ := claims_of_answer made
  have about : "a" = answer.claims.subject := Option.some.inj subject
  refine ⟨pair_published (by decide), answer, answered, about.symm, tokens, ?_⟩
  rw [← about]
  decide

end Resolve.Resolver

end TrustFederation
