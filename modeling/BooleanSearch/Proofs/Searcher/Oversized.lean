import BooleanSearch.Proofs.Condition.Limited

set_option autoImplicit false
set_option relaxedAutoImplicit false

namespace BooleanSearch

namespace Searcher

variable {searcher : Searcher} {query : Text}

def afterMiss (searcher : Searcher) : Searcher :=
  { searcher with memo := { searcher.memo with misses := searcher.memo.misses + 1 } }

private theorem compile_eq_of_error [Engine] {error : QueryError}
    (h : (searcher.compile query).1 = .error error) :
    searcher.compile query = (.error error, searcher.afterMiss) := by
  cases hfind : searcher.memo.find? query with
  | some condition =>
    rw [compile_of_find? hfind] at h
    exact absurd h (by simp)
  | none =>
    cases hcompile : searcher.options.compile query with
    | ok condition =>
      rw [compile_of_ok hfind hcompile] at h
      exact absurd h (by simp)
    | error error' =>
      rw [compile_of_error hfind hcompile] at h ⊢
      obtain rfl : error' = error := Except.error.inj h
      rfl

private theorem filter_eq_of_error [Engine] {error : QueryError}
    (h : (searcher.compile query).1 = .error error) (candidate : Text) :
    searcher.filter candidate query = (false, searcher.afterMiss) := by
  rw [filter, compile_eq_of_error h]
  rfl

private theorem filterAll_eq_of_error [Engine] {error : QueryError}
    (h : (searcher.compile query).1 = .error error) (candidates : List Text) :
    searcher.filterAll candidates query = ([], searcher.afterMiss) := by
  rw [filterAll, compile_eq_of_error h]
  have hnone : candidates.filter (satisfies (.error error)) = [] :=
    List.filter_eq_nil_iff.2 fun _ _ => Bool.false_ne_true
  exact congrArg (·, searcher.afterMiss) hnone

/-- Let the engine go by prices. Then a query fails to compile exactly if it is not empty and one
of its runs costs more than the limit, and a lookup fails exactly if the query fails to compile. A
higher limit changes no condition and no answer. A lookup that fails changes one count and finds no
candidate. -/
theorem error_iff_oversized_run [Engine] {prices : Prices} (hprices : Engine.GoesBy prices)
    (query : Text) :
    (∀ (options : Options) (error : QueryError), options.compile query = .error error ↔
      error = .oversized options.sizeLimit ∧ trim query ≠ [] ∧
        ∃ run ∈ (options.tokens.grouping query).allRuns,
          options.sizeLimit < run.cost prices options.caseMode) ∧
    (∀ searcher : Searcher, searcher.IsReachable → ∀ error,
      (searcher.compile query).1 = .error error ↔
        error = .oversized searcher.options.sizeLimit ∧ trim query ≠ [] ∧
          ∃ run ∈ (searcher.options.tokens.grouping query).allRuns,
            searcher.options.sizeLimit < run.cost prices searcher.options.caseMode) ∧
    (∀ searcher other : Searcher, searcher.IsReachable → other.IsReachable → ∀ limit,
      searcher.options.sizeLimit ≤ limit →
      other.options = { searcher.options with sizeLimit := limit } →
      ∀ compiled, (searcher.compile query).1 = .ok compiled →
        (other.compile query).1 = .ok compiled ∧ ∀ candidate,
          (other.filter candidate query).1 = (searcher.filter candidate query).1) ∧
    ∀ (searcher : Searcher) (error : QueryError), (searcher.compile query).1 = .error error →
      (searcher.compile query).2 = searcher.afterMiss ∧
      (∀ candidate, searcher.filter candidate query = (false, searcher.afterMiss)) ∧
      ∀ candidates, searcher.filterAll candidates query = ([], searcher.afterMiss) := by
  refine ⟨fun options error => hprices.compile_eq_error_iff, ?_, ?_, ?_⟩
  · intro searcher hreachable error
    rw [hreachable.isCoherent.compile_fst, hprices.compile_eq_error_iff]
  · intro searcher other hsearcher hother limit hlimit hoptions compiled hcompile
    rw [hsearcher.isCoherent.compile_fst] at hcompile
    have hlarger : other.options.compile query = .ok compiled := by
      rw [hoptions]
      exact hprices.compile_of_sizeLimit_le hlimit hcompile
    refine ⟨by rw [hother.isCoherent.compile_fst, hlarger], fun candidate => ?_⟩
    rw [hother.isCoherent.filter_fst, hsearcher.isCoherent.filter_fst, hlarger, hcompile]
  · intro searcher error herror
    have hcompile := congrArg Prod.snd (compile_eq_of_error herror)
    exact ⟨hcompile, filter_eq_of_error herror, filterAll_eq_of_error herror⟩

/-- A term of a hundred letters is many times over a limit of 1000, whatever stands beside it, and
far below the limit that searchers start with. -/
theorem error_of_run_of_hundred_letters :
    let long := List.replicate 100 'x'
    let query := "y && z || ".toList ++ long
    let narrow := ({ options := { sizeLimit := 1000 } } : Searcher).run [.filter [] query]
    let wide : Searcher := {}
    let wider : Searcher := { options := { sizeLimit := 20 * 1024 * 1024 } }
    Engine.GoesBy roughPrices ∧ narrow.IsReachable ∧
      (narrow.compile query).1 = .error (.oversized 1000) ∧
      narrow.filter long query = (false, narrow.afterMiss) ∧
      narrow.filterAll ["z y".toList, []] query = ([], narrow.afterMiss) ∧
      wide.IsReachable ∧ wider.IsReachable ∧ wide.options.sizeLimit ≤ 20 * 1024 * 1024 ∧
      wider.options = { wide.options with sizeLimit := 20 * 1024 * 1024 } ∧
      ∃ compiled, (wide.compile query).1 = .ok compiled ∧ (wider.compile query).1 = .ok compiled ∧
        ∀ candidate, (wider.filter candidate query).1 = (wide.filter candidate query).1 := by
  intro long query narrow wide wider
  obtain ⟨-, hfails, hlarger, hafter⟩ := error_iff_oversized_run Engine.rough_goesBy query
  have hnarrow : narrow.IsReachable := ⟨{ sizeLimit := 1000 }, [.filter [] query], rfl⟩
  have hwide : wide.IsReachable := ⟨{}, [], rfl⟩
  have hwider : wider.IsReachable := ⟨{ sizeLimit := 20 * 1024 * 1024 }, [], rfl⟩
  have hoptions : narrow.options = { sizeLimit := 1000 } := by
    rw [run_options]
    rfl
  have htrim : trim query = query := by decide +kernel
  have hquery : trim query ≠ [] := by
    rw [htrim]
    exact List.cons_ne_nil _ _
  have hsplit : Tokens.standard.split query = .link ['y'] .and (.link ['z'] .or (.last long)) :=
    Chain.split_eq_iff.2 ⟨rfl, by decide +kernel⟩
  have hruns : (Tokens.standard.grouping query).allRuns =
      [⟨some .and, [['y'], ['z']]⟩, ⟨none, [long]⟩] := by
    rw [Tokens.grouping, htrim, hsplit]
    rfl
  have herror : (narrow.compile query).1 = .error (.oversized 1000) := by
    rw [hfails narrow hnarrow, hoptions]
    refine ⟨rfl, hquery, ⟨none, [long]⟩, ?_, by decide +kernel⟩
    rw [hruns]
    exact List.mem_cons_of_mem _ List.mem_cons_self
  have hcompile : ∃ compiled, (wide.compile query).1 = .ok compiled := by
    cases h : (wide.compile query).1 with
    | ok compiled => exact ⟨compiled, rfl⟩
    | error error =>
      obtain ⟨-, -, run, hrun, hcost⟩ := (hfails wide hwide error).1 h
      have hsmall : ∀ run ∈ (Tokens.standard.grouping query).allRuns,
          run.cost roughPrices .insensitive ≤ 10 * 1024 * 1024 := by
        rw [hruns]
        decide +kernel
      exact absurd hcost (Nat.not_lt.2 (hsmall run hrun))
  obtain ⟨-, hfilter, hfilterAll⟩ := hafter narrow _ herror
  obtain ⟨compiled, hcompile⟩ := hcompile
  obtain ⟨hsame, hanswers⟩ :=
    hlarger wide wider hwide hwider (20 * 1024 * 1024) (by decide) rfl compiled hcompile
  exact ⟨Engine.rough_goesBy, hnarrow, herror, hfilter _, hfilterAll _, hwide, hwider, by decide,
    rfl, compiled, hcompile, hsame, hanswers⟩

end Searcher

end BooleanSearch
