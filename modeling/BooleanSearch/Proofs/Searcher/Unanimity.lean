import BooleanSearch.Proofs.Condition.Compiled
import BooleanSearch.Proofs.Query.Leftmost
import BooleanSearch.Proofs.Searcher.Coherence

set_option autoImplicit false
set_option relaxedAutoImplicit false

namespace BooleanSearch

variable {holds : Text → Bool} {verdict : Bool}

private theorem Run.verdict_of_forall_eq {run : Run} (hrun : run.terms ≠ [])
    (h : ∀ term ∈ run.terms, holds term = verdict) : run.verdict holds = verdict := by
  obtain ⟨tag, terms⟩ := run
  obtain ⟨first, hfirst⟩ := List.exists_mem_of_ne_nil terms hrun
  have hboth : terms.all holds = verdict ∧ terms.any holds = verdict := by
    cases verdict with
    | true =>
      have hany : terms.any holds := List.any_eq_true.2 ⟨first, hfirst, h first hfirst⟩
      exact ⟨List.all_eq_true.2 h, hany⟩
    | false =>
      have hnot : ∀ term ∈ terms, ¬ holds term := by simpa using h
      have hall : terms.all holds = false :=
        List.all_eq_false.2 ⟨first, hfirst, hnot first hfirst⟩
      exact ⟨hall, List.any_eq_false.2 hnot⟩
  rcases tag with - | op
  · exact hboth.2
  · cases op
    · exact hboth.1
    · exact hboth.2

private theorem Chain.enoughVotes_runs_of_forall_eq {chain : Chain Text}
    (h : ∀ term ∈ operands chain.pieces, holds term = verdict) :
    enoughVotes (chain.runs.map (Run.verdict holds)).pieces = verdict := by
  apply enoughVotes_of_forall_verdict_eq
  intro v hv
  rw [operands_pieces_map] at hv
  obtain ⟨run, hrun, rfl⟩ := List.mem_map.1 hv
  have hterms : run.terms ≠ [] := terms_ne_nil_of_mem_runsFrom hrun
  exact Run.verdict_of_forall_eq hterms fun term hterm => h term (mem_of_mem_runs hrun hterm)

/-- A term of a query stands in the query as it was given, blanks at its ends included. -/
theorem Tokens.infix_of_mem_split {tokens : Tokens} {query term : Text}
    (h : term ∈ operands (tokens.split (trim query)).pieces) : term <:+: query := by
  have hrender := Chain.infix_render_of_mem tokens h
  rw [tokens.render_split] at hrender
  exact hrender.trans (trim_isInfix query)

namespace Options

variable {options : Options} {query : Text} {compiled : Option Condition}

private theorem satisfies_compile_of_forall_eq [Engine]
    (hcompile : options.compile query = .ok compiled) (hquery : trim query ≠ [])
    {candidate : Text} (hcandidate : candidate ≠ [])
    (h : ∀ term ∈ operands (options.tokens.split (trim query)).pieces,
      options.occurs candidate term = verdict) :
    satisfies (options.compile query) candidate = verdict := by
  rw [compile_of_trim_ne_nil hquery] at hcompile ⊢
  obtain ⟨condition, hcondition, -⟩ := map_eq_ok_iff.1 hcompile
  have hholds : condition.holds candidate = verdict := by
    rw [holds_of_condition hcondition]
    exact Chain.enoughVotes_runs_of_forall_eq h
  have hempty : candidate.isEmpty = false := List.isEmpty_eq_false_iff.2 hcandidate
  rw [hcondition]
  change (!candidate.isEmpty && condition.holds candidate) = verdict
  rw [hholds, hempty, Bool.not_false, Bool.true_and]

private theorem satisfies_compile_self [Engine] (hcompile : options.compile query = .ok compiled) :
    satisfies (options.compile query) query = true := by
  by_cases htrim : trim query = []
  · rw [compile_of_trim_eq_nil htrim]
    rfl
  · have hquery : query ≠ [] := by
      rintro rfl
      exact htrim rfl
    refine satisfies_compile_of_forall_eq hcompile htrim hquery fun term hterm => ?_
    exact decide_eq_true (occurs_of_isInfix options.caseMode (Tokens.infix_of_mem_split hterm))

end Options

namespace Searcher

/-- A query that compiles is satisfied by its own text, so there is none that nothing satisfies. A
candidate satisfies it if all of its terms occur, and does not if none of them does. -/
theorem filter_of_unanimous_terms [Engine] {searcher : Searcher}
    (hreachable : searcher.IsReachable) {query : Text}
    (hcompile : ∃ compiled, searcher.options.compile query = .ok compiled) :
    let options := searcher.options
    (searcher.filter query query).1 = true ∧
      (trim query ≠ [] → ∀ candidate ≠ [],
        ((∀ term ∈ operands (options.tokens.split (trim query)).pieces,
            Occurs options.caseMode term candidate) → (searcher.filter candidate query).1 = true) ∧
          ((∀ term ∈ operands (options.tokens.split (trim query)).pieces,
            ¬ Occurs options.caseMode term candidate) →
              (searcher.filter candidate query).1 = false)) := by
  obtain ⟨compiled, hcompile⟩ := hcompile
  intro options
  constructor
  · rw [hreachable.isCoherent.filter_fst]
    exact Options.satisfies_compile_self hcompile
  · intro hquery candidate hcandidate
    have hjudged : ∀ verdict, (∀ term ∈ operands (options.tokens.split (trim query)).pieces,
        options.occurs candidate term = verdict) →
          (searcher.filter candidate query).1 = verdict := by
      intro verdict h
      rw [hreachable.isCoherent.filter_fst]
      exact Options.satisfies_compile_of_forall_eq hcompile hquery hcandidate h
    constructor
    · intro hall
      exact hjudged true fun term hterm => decide_eq_true (hall term hterm)
    · intro hnone
      exact hjudged false fun term hterm => decide_eq_false (hnone term hterm)

theorem filter_three_terms :
    let searcher : Searcher := {}
    let query := "a. b && (c || D".toList
    let terms := operands (searcher.options.tokens.split (trim query)).pieces
    searcher.IsReachable ∧ (∃ compiled, searcher.options.compile query = .ok compiled) ∧
      trim query ≠ [] ∧ (searcher.filter query query).1 = true ∧
      (∀ term ∈ terms, Occurs searcher.options.caseMode term "(C|d|A. \t B".toList) ∧
      (searcher.filter "(C|d|A. \t B".toList query).1 = true ∧
      (∀ term ∈ terms, ¬ Occurs searcher.options.caseMode term "a.b (".toList) ∧
      (searcher.filter "a.b (".toList query).1 = false := by
  intro searcher query terms
  have hreachable : searcher.IsReachable := ⟨{}, [], rfl⟩
  have htrim : trim query = query := by decide
  have hquery : trim query ≠ [] := by rw [htrim]; exact List.cons_ne_nil _ _
  have hsplit : searcher.options.tokens.split (trim query) =
      .link ['a', '.', ' ', 'b'] .and (.link ['(', 'c'] .or (.last ['D'])) := by
    rw [htrim]
    exact Chain.split_eq_iff.2 ⟨by decide, by decide⟩
  have hterms : terms = [['a', '.', ' ', 'b'], ['(', 'c'], ['D']] := by
    change operands (searcher.options.tokens.split (trim query)).pieces = _
    rw [hsplit]
    rfl
  have hcompile : ∃ compiled, searcher.options.compile query = .ok compiled := by
    apply exists_eq_ok_of_isOk
    rw [Options.compile_of_trim_ne_nil hquery, hsplit]
    decide +kernel
  have hall : ∀ term ∈ terms, Occurs searcher.options.caseMode term "(C|d|A. \t B".toList := by
    rw [hterms]
    decide
  have hnone : ∀ term ∈ terms, ¬ Occurs searcher.options.caseMode term "a.b (".toList := by
    rw [hterms]
    decide
  obtain ⟨hself, hunanimous⟩ := filter_of_unanimous_terms hreachable hcompile
  have hfound := (hunanimous hquery "(C|d|A. \t B".toList (by decide)).1 hall
  have hmissed := (hunanimous hquery "a.b (".toList (by decide)).2 hnone
  exact ⟨hreachable, hcompile, hquery, hself, hall, hfound, hnone, hmissed⟩

end Searcher

end BooleanSearch
