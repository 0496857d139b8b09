import BooleanSearch.Proofs.Condition.Compiled
import BooleanSearch.Proofs.Query.Leftmost
import BooleanSearch.Proofs.Searcher.Coherence

set_option autoImplicit false
set_option relaxedAutoImplicit false

namespace BooleanSearch

def Explanation.condition (explanation : Explanation) : Option Condition :=
  explanation.stages.map Stages.condition

/-- Each stage is made from the one before it, and the first one from the trimmed query. -/
structure Stages.IsLinked [Engine] (stages : Stages) (options : Options) (query : Text) : Prop where
  segments_eq : Segments.ofText? options.tokens (trim query) = some stages.segments
  grouping_eq : stages.grouping = .ofSegments stages.segments
  condition_eq : options.condition stages.grouping = .ok stages.condition

namespace Options

variable [Engine] {options : Options} {query : Text}

private theorem stages_of_trim_eq_nil (h : trim query = []) : options.stages query = .ok none := by
  rw [Options.stages, h]
  rfl

private theorem stages_of_trim_ne_nil (h : trim query ≠ []) :
    let segments := Segments.ofChain (options.tokens.split (trim query))
    options.stages query =
      (fun condition => some ⟨segments, .ofSegments segments, condition⟩) <$>
        options.condition (.ofSegments segments) := by
  rw [Options.stages, Segments.ofText?_of_ne_nil h]

private theorem compile_eq_map_stages (options : Options) (query : Text) :
    options.compile query = Option.map Stages.condition <$> options.stages query := by
  by_cases htrim : trim query = []
  · rw [compile_of_trim_eq_nil htrim, stages_of_trim_eq_nil htrim]
    rfl
  · rw [compile_of_trim_ne_nil htrim, stages_of_trim_ne_nil htrim]
    cases options.condition (.ofSegments (.ofChain (options.tokens.split (trim query)))) <;> rfl

private theorem isLinked_of_stages {stages : Stages}
    (h : options.stages query = .ok (some stages)) :
    stages.IsLinked options query := by
  by_cases htrim : trim query = []
  · rw [stages_of_trim_eq_nil htrim] at h
    exact absurd (Except.ok.inj h) (by simp)
  · rw [stages_of_trim_ne_nil htrim] at h
    obtain ⟨condition, hcondition, hstages⟩ := map_eq_ok_iff.1 h
    obtain rfl := Option.some.inj hstages
    exact ⟨Segments.ofText?_of_ne_nil htrim, rfl, hcondition⟩

private theorem eq_none_iff_of_stages {stages : Option Stages}
    (h : options.stages query = .ok stages) :
    stages = none ↔ trim query = [] := by
  constructor
  · rintro rfl
    by_contra htrim
    rw [stages_of_trim_ne_nil htrim] at h
    obtain ⟨condition, -, hnone⟩ := map_eq_ok_iff.1 h
    exact absurd hnone (by simp)
  · intro htrim
    rw [stages_of_trim_eq_nil htrim] at h
    exact (Except.ok.inj h).symm

end Options

namespace Searcher

section Explanations

variable [Engine] {searcher : Searcher} {query : Text}

private theorem explain_eq_ok_iff {explanation : Explanation} :
    searcher.explain query = .ok explanation ↔ explanation.query = query ∧
      explanation.tokens = searcher.options.tokens ∧
      explanation.caseMode = searcher.options.caseMode ∧
      searcher.options.stages query = .ok explanation.stages := by
  rw [explain, map_eq_ok_iff]
  constructor
  · intro h
    obtain ⟨stages, hstages, rfl⟩ := h
    exact ⟨rfl, rfl, rfl, hstages⟩
  · intro h
    obtain ⟨query', tokens, caseMode, stages⟩ := explanation
    obtain ⟨rfl, rfl, rfl, hstages⟩ := h
    exact ⟨stages, hstages, rfl⟩

private theorem compile_eq_map_explain (searcher : Searcher) (query : Text) :
    searcher.options.compile query = Explanation.condition <$> searcher.explain query := by
  rw [Options.compile_eq_map_stages, explain]
  cases searcher.options.stages query <;> rfl

/-- In every state that calls lead to, a query is explained by the error or the condition that a
lookup of it gives and that candidates are compared with. The stages of the explanation follow from
each other, they are missing exactly for an empty query, and the searcher stays as it is. -/
theorem explain_agrees_with_compile (hreachable : searcher.IsReachable) (query : Text) :
    (∀ error, searcher.explain query = .error error ↔
      (searcher.compile query).1 = .error error) ∧
    (∀ explanation, searcher.explain query = .ok explanation →
      explanation.query = query ∧ explanation.tokens = searcher.options.tokens ∧
      explanation.caseMode = searcher.options.caseMode ∧
      (searcher.compile query).1 = .ok explanation.condition ∧
      (∀ candidate, (searcher.filter candidate query).1 =
        satisfies (.ok explanation.condition) candidate) ∧
      (explanation.stages = none ↔ trim query = []) ∧
      ∀ stages, explanation.stages = some stages → stages.IsLinked searcher.options query) ∧
    (searcher.perform (.explain query)).2 = searcher := by
  have hcoherent := hreachable.isCoherent
  refine ⟨?_, ?_, rfl⟩
  · intro error
    rw [hcoherent.compile_fst, compile_eq_map_explain, map_eq_error_iff]
  · intro explanation hexplain
    obtain ⟨hquery, htokens, hcaseMode, hstages⟩ := explain_eq_ok_iff.1 hexplain
    have hcompile : searcher.options.compile query = .ok explanation.condition := by
      rw [compile_eq_map_explain, hexplain]
      rfl
    refine ⟨hquery, htokens, hcaseMode, ?_, ?_, Options.eq_none_iff_of_stages hstages, ?_⟩
    · rw [hcoherent.compile_fst, hcompile]
    · intro candidate
      rw [hcoherent.filter_fst, hcompile]
    · intro stages hsome
      rw [hsome] at hstages
      exact Options.isLinked_of_stages hstages

end Explanations

def lookupsOfExplainedQuery (query : Text) : List Call :=
  [.compile query, .setCaseMode .sensitive, .filter "B a".toList query]

theorem explain_remembered_query :
    let query := " a && b || c".toList
    let searcher := ({} : Searcher).run (lookupsOfExplainedQuery query)
    searcher.IsReachable ∧ ∃ explanation, searcher.explain query = .ok explanation ∧
      (searcher.compile query).1 = .ok explanation.condition ∧
      ∃ stages, explanation.stages = some stages ∧ stages.IsLinked searcher.options query := by
  intro query searcher
  have hreachable : searcher.IsReachable := ⟨{}, lookupsOfExplainedQuery query, rfl⟩
  have hoptions : searcher.options = { caseMode := .sensitive } := by
    rw [run_options]
    rfl
  have htrim : trim query = "a && b || c".toList := by decide
  have hquery : trim query ≠ [] := by rw [htrim]; exact List.cons_ne_nil _ _
  have hsplit : Tokens.standard.split "a && b || c".toList =
      .link ['a'] .and (.link ['b'] .or (.last ['c'])) :=
    Chain.split_eq_iff.2 ⟨by decide, by decide⟩
  have hexplain : ∃ explanation, searcher.explain query = .ok explanation := by
    apply exists_eq_ok_of_isOk
    rw [explain, hoptions, Options.stages, htrim, Segments.ofText?_of_ne_nil (by decide), hsplit]
    decide +kernel
  obtain ⟨explanation, hexplain⟩ := hexplain
  obtain ⟨-, hok, -⟩ := explain_agrees_with_compile hreachable query
  obtain ⟨-, -, -, hcompile, -, hnone, hlinked⟩ := hok explanation hexplain
  have hstages : ∃ stages, explanation.stages = some stages :=
    Option.ne_none_iff_exists'.1 fun hstages => hquery (hnone.1 hstages)
  obtain ⟨stages, hstages⟩ := hstages
  exact ⟨hreachable, explanation, hexplain, hcompile, stages, hstages, hlinked stages hstages⟩

end Searcher

end BooleanSearch
