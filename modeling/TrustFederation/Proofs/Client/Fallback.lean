import TrustFederation.Proofs.Client.Coherence
/-!
# Falling back on what is kept

Once an operation was answered, a later one of the same format for the same address can do without
the web. Whether it is answered too depends on the last body that came from there in between, if one
came: a body takes the place of the one before as soon as it comes, before anything is read from it.
Answers without success, and no answers at all, do no harm.
-/
namespace TrustFederation.Client

variable {σ : Type} {web : Web σ} {operation : Operation} {url : String} {content : Content}

/-- After a good answer the body that it was read from is kept. -/
theorem kept_of_ok {state : WebState σ} (addressed : operation.address = .ok url)
    (good : (web.perform operation state).1 = .ok content) :
    ∃ body, (web.perform operation state).2.cache.lookup url = some body ∧
      operation.format.read url body = .ok content := by
  by_cases asked : operation.request.useCached = false ∨ state.cache.lookup url = none
  · rw [perform_sent addressed asked] at good ⊢
    cases came : (web.get url state.world).1.body url with
    | error failure =>
      rw [came] at good
      cases good
    | ok body =>
      rw [came] at good
      exact ⟨body, by rw [Text.Dictionary.lookup_insert, if_pos rfl], good⟩
  · obtain ⟨cached, held⟩ := not_or.mp asked
    obtain ⟨body, held⟩ := Option.ne_none_iff_exists'.mp held
    rw [perform_kept addressed (Bool.eq_true_of_not_eq_false cached) held] at good ⊢
    exact ⟨body, held, good⟩

/-- After a good answer, an operation of the same format for the same address that takes an earlier
answer sends nothing, whatever the web answered in between. It fails only if a body came from there
in between and nothing can be read from the last one; if none came, it is answered as before. -/
theorem fallback_of_good (web : Web σ) (before : WebState σ) (earlier later : Operation)
    (between : List Operation) (url : String) (content : Content)
    (addressed : earlier.address = .ok url)
    (good : (web.perform earlier before).1 = .ok content)
    (again : later.address = .ok url) (alike : later.format = earlier.format)
    (cached : later.request.useCached = true) :
    let state := (web.recorded.run between (web.perform earlier before).2.recording).2
    let ran := web.recorded.perform later state
    ran.2 = state ∧
      ((∃ found, ran.1 = .ok found) ↔
        ∀ body, LastBody state.record url body → ∃ found, later.format.read url body = .ok found) ∧
      ((∀ body, ¬ LastBody state.record url body) → ran.1 = .ok content) := by
  intro state ran
  obtain ⟨first, held, read⟩ := kept_of_ok addressed good
  have accounted : Accounted (web.perform earlier before).2.cache state :=
    (accounted_recording _).run between
  have found := accounted url
  rw [held] at found
  simp only [← last_body_iff]
  cases last : lastBody? state.record url with
  | none =>
    rw [last, Option.none_or] at found
    have answered : ran = (.ok content, state) := by
      rw [← read, ← alike]
      exact perform_kept again cached found
    simp [answered]
  | some body =>
    rw [last, Option.some_or] at found
    have answered : ran = (later.format.read url body, state) := perform_kept again cached found
    simp [answered]

/-- After a good listing the server is out of order, then away, then lists another entity. -/
theorem fallback_of_good_outage :
    let url := "http://ia/list"
    let asked := listingAt url false
    let world := (ScriptedWeb.empty true).merge [(url, [.reply 200 "[\"http://rp\"]" none,
      .reply 503 "" none, .closed, .reply 200 "[\"http://op\"]" none])]
    let before : WebState ScriptedWeb := ⟨[], world⟩
    let state := fun between => (ScriptedWeb.web.recorded.run between
      (ScriptedWeb.web.perform asked before).2.recording).2
    let answer := fun between =>
      (ScriptedWeb.web.recorded.perform (listingAt url true) (state between)).1
    answer [asked, asked] = .ok (.identifiers ["http://rp"]) ∧
      ∃ found, answer [asked, asked, asked] = .ok found := by
  intro url asked world before state answer
  have good : (ScriptedWeb.web.perform asked before).1 = .ok (.identifiers ["http://rp"]) := by
    decide +kernel
  have fallback (between : List Operation) := fallback_of_good ScriptedWeb.web before
    asked (listingAt url true) between url _ rfl good rfl rfl rfl
  constructor
  · refine (fallback [asked, asked]).2.2 fun body last => ?_
    have nothing : lastBody? (state [asked, asked]).record url = none := by decide +kernel
    cases nothing.symm.trans (last_body_iff.mpr last)
  · refine (fallback [asked, asked, asked]).2.1.mpr fun body last => ⟨.identifiers ["http://op"], ?_⟩
    have came : lastBody? (state [asked, asked, asked]).record url = some "[\"http://op\"]" := by
      decide +kernel
    obtain rfl := Option.some.inj (came.symm.trans (last_body_iff.mpr last))
    decide +kernel

/-- What is kept can be of no use where an earlier answer was good: a body that is no listing takes
the place of the listing, and then no listing can be read from it. -/
theorem fallback_after_unreadable :
    let url := "http://ia/list"
    let world := (ScriptedWeb.empty true).merge
      [(url, [.reply 200 "[\"http://rp\"]" none, .reply 200 "Back soon." none])]
    let failure := Failure.client s!"Invalid listing from {url}: expected value"
    (listingAt url false).address = .ok url ∧ (listingAt url true).address = .ok url ∧
      (ScriptedWeb.web.run [listingAt url false, listingAt url false, listingAt url true]
        ⟨[], world⟩).1 = [.ok (.identifiers ["http://rp"]), .error failure, .error failure] := by
  decide +kernel

end TrustFederation.Client
