import BooleanSearch.Proofs.Condition.Compiled
import BooleanSearch.Proofs.Query.EndTerms
import BooleanSearch.Proofs.Searcher.Coherence

set_option autoImplicit false
set_option relaxedAutoImplicit false

namespace BooleanSearch

private theorem Options.compile_append_append_of_blank [Engine] {before after : Text}
    (hbefore : ∀ c ∈ before, isBlank c) (hafter : ∀ c ∈ after, isBlank c) (options : Options)
    (query : Text) : options.compile (before ++ query ++ after) = options.compile query := by
  rw [compile, compile, trim_append_append_of_blank hbefore hafter]

private theorem append_append_ne_self {before after : Text} (h : before ++ after ≠ [])
    (query : Text) :
    before ++ query ++ after ≠ query := by
  intro hsame
  have hlength := congrArg List.length hsame
  have hpos := List.length_pos_iff.2 h
  simp only [List.length_append] at hlength hpos
  omega

namespace Searcher

private theorem find?_compile_compile [Engine] {searcher : Searcher}
    (hcoherent : searcher.IsCoherent) {query other : Text} {condition : Option Condition}
    (hother : searcher.options.compile other = .ok condition)
    (hquery : (searcher.compile query).1 = .ok condition) :
    let both := ((searcher.compile query).2.compile other).2
    both.memo.find? query = some condition ∧ both.memo.find? other = some condition := by
  intro both
  have hknown : both.memo.find? other = some condition := by
    refine find?_compile_self ?_
    rw [(hcoherent.compile_snd query).compile_fst, compile_options, hother]
  refine ⟨?_, hknown⟩
  by_cases hsame : query = other
  · rwa [hsame]
  · rw [find?_compile_of_ne hsame]
    exact find?_compile_self hquery

/-- A query with blanks around it compiles to what the query compiles to and has its answers in
every searcher, also right after it; but looking up the one teaches nothing about the other, and
both are remembered. Where both tokens begin and end with a blank, as those that a searcher starts
with do, the first term of a query that is not empty begins with another character, the last one
ends with another, and there is a candidate in which neither occurs. -/
theorem answers_of_padded_query [Engine] (query before after : Text)
    (hbefore : ∀ c ∈ before, isBlank c) (hafter : ∀ c ∈ after, isBlank c) :
    let padded := before ++ query ++ after
    (∀ options : Options, options.compile padded = options.compile query) ∧
      (∀ searcher : Searcher, searcher.IsReachable →
        (searcher.compile padded).1 = (searcher.compile query).1 ∧
          (∀ candidate,
            (searcher.filter candidate padded).1 = (searcher.filter candidate query).1) ∧
          (∀ candidates,
            (searcher.filterAll candidates padded).1 = (searcher.filterAll candidates query).1) ∧
          (before ++ after ≠ [] →
            (searcher.compile query).2.memo.find? padded = searcher.memo.find? padded) ∧
          ∀ condition, (searcher.compile query).1 = .ok condition →
            let both := ((searcher.compile query).2.compile padded).2
            both.memo.find? query = some condition ∧ both.memo.find? padded = some condition) ∧
      Tokens.standard.IsSpaced ∧
      ∀ tokens : Tokens, tokens.IsSpaced → trim query ≠ [] →
        ∃ segments first last, Segments.ofText? tokens (trim query) = some segments ∧
          (operands segments.pieces).head? = some first ∧
          (operands segments.pieces).getLast? = some last ∧
          (∃ c ∈ first.head?, ¬ isBlank c) ∧ (∃ c ∈ last.getLast?, ¬ isBlank c) ∧
          ∀ mode, ¬ (Pattern.ofTerm first).occursIn mode [' '] ∧
            ¬ (Pattern.ofTerm last).occursIn mode [' '] := by
  intro padded
  have hcompile : ∀ options : Options, options.compile padded = options.compile query :=
    fun options => options.compile_append_append_of_blank hbefore hafter query
  refine ⟨hcompile, ?_, Tokens.isSpaced_standard, ?_⟩
  · intro searcher hreachable
    have hcoherent := hreachable.isCoherent
    refine ⟨?_, fun candidate => ?_, fun candidates => ?_, ?_, ?_⟩
    · rw [hcoherent.compile_fst, hcoherent.compile_fst, hcompile]
    · rw [hcoherent.filter_fst, hcoherent.filter_fst, hcompile]
    · rw [hcoherent.filterAll_fst, hcoherent.filterAll_fst, hcompile]
    · intro hpadding
      exact find?_compile_of_ne (append_append_ne_self hpadding query)
    · intro condition hcondition
      have hpadded : searcher.options.compile padded = .ok condition := by
        rw [hcompile, ← hcoherent.compile_fst, hcondition]
      exact find?_compile_compile hcoherent hpadded hcondition
  · intro tokens hspaced hquery
    obtain ⟨segments, first, last, hsegments, hfirst, hlast, ⟨c, hc, hnot⟩, d, hd, hnot'⟩ :=
      Segments.exists_end_terms hspaced hquery (fun _ => not_isBlank_of_mem_head?_trim)
        (fun _ => not_isBlank_of_mem_getLast?_trim)
    refine ⟨segments, first, last, hsegments, hfirst, hlast, ⟨c, hc, hnot⟩, ⟨d, hd, hnot'⟩,
      fun mode => ⟨?_, ?_⟩⟩
    · exact Pattern.not_occursIn_blank (List.mem_of_mem_head? hc) hnot mode
    · exact Pattern.not_occursIn_blank (List.mem_of_getLast? hd) hnot' mode

/-- The token of OR at the end of `red || ` loses its blank and is read as a part of the term. A
searcher that knows `red ||` does not know it with blanks around it until it is asked. -/
theorem answers_of_red_or :
    let query := "red ||".toList
    let padded := ['\t'] ++ query ++ [' ']
    let searcher : Searcher := {}
    let condition : Condition := .term .insensitive (.ofTerm query)
    (∀ c ∈ ['\t'], isBlank c) ∧ (∀ c ∈ [' '], isBlank c) ∧ searcher.IsReachable ∧
      ['\t'] ++ [' '] ≠ [] ∧ (searcher.compile query).2.memo.find? padded = none ∧
      (searcher.compile query).1 = .ok (some condition) ∧
      ((searcher.compile query).2.compile padded).2.memo.find? padded = some (some condition) ∧
      Tokens.standard.IsSpaced ∧ trim query ≠ [] ∧
      ∃ segments first last, Segments.ofText? .standard (trim query) = some segments ∧
        (operands segments.pieces).head? = some first ∧
        (operands segments.pieces).getLast? = some last ∧
        (∃ c ∈ first.head?, ¬ isBlank c) ∧ ∃ c ∈ last.getLast?, ¬ isBlank c := by
  intro query padded searcher condition
  have hbefore : ∀ c ∈ ['\t'], isBlank c := List.forall_mem_singleton.2 rfl
  have hafter : ∀ c ∈ [' '], isBlank c := List.forall_mem_singleton.2 rfl
  obtain ⟨-, hanswers, hspaced, hends⟩ := answers_of_padded_query query _ _ hbefore hafter
  have hreachable : searcher.IsReachable := ⟨{}, [], rfl⟩
  have hpadding : ['\t'] ++ [' '] ≠ [] := List.cons_ne_nil _ _
  obtain ⟨-, -, -, hunknown, hboth⟩ := hanswers searcher hreachable
  have htrim : trim query = query := by decide
  have hquery : trim query ≠ [] := by
    rw [htrim]
    exact List.cons_ne_nil _ _
  have hsplit : Tokens.standard.split query = .last query := by decide +kernel
  have hcompile : (searcher.compile query).1 = .ok (some condition) := by
    rw [hreachable.isCoherent.compile_fst, Options.compile_of_trim_ne_nil hquery, htrim]
    change some <$> ({} : Options).condition
      (.ofSegments (.ofChain (Tokens.standard.split query))) = _
    rw [hsplit]
    change some <$> ({} : Options).termCondition query = _
    rw [Options.termCondition, Options.build, if_pos (by decide +kernel)]
    rfl
  obtain ⟨segments, first, last, hsegments, hfirst, hlast, hbegin, hend, -⟩ :=
    hends .standard hspaced hquery
  exact ⟨hbefore, hafter, hreachable, hpadding, hunknown hpadding, hcompile,
    (hboth _ hcompile).2, hspaced, hquery, segments, first, last, hsegments, hfirst, hlast, hbegin,
    hend⟩

end Searcher

end BooleanSearch
