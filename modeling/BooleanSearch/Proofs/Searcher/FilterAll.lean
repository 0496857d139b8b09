import BooleanSearch.Proofs.Searcher.Coherence

set_option autoImplicit false
set_option relaxedAutoImplicit false

namespace BooleanSearch

namespace Call

def isLookup : Call → Bool
  | .filter _ _ => true
  | .filterAll _ _ => true
  | .compile _ => true
  | .explain _ => true
  | _ => false

def candidate? (query : Text) : Call → Option Text
  | .filter candidate query' => if query' = query then some candidate else none
  | _ => none

end Call

/-- The candidate of a call that filtered by this query and was answered by yes. -/
def found? (query : Text) : Call × Answer → Option Text
  | (call, .verdict true) => call.candidate? query
  | _ => none

namespace Searcher

def transcript [Engine] : Searcher → List Call → List (Call × Answer)
  | _, [] => []
  | searcher, call :: calls =>
    (call, (searcher.perform call).1) :: (searcher.perform call).2.transcript calls

/-- The searchers differ in nothing but the counts of known and unknown queries. -/
structure AgreesUpToCounts (searcher other : Searcher) : Prop where
  options_eq : searcher.options = other.options
  entries_eq : searcher.memo.entries = other.memo.entries
  resets_eq : searcher.memo.resets = other.memo.resets

section Lookups

variable [Engine] {searcher : Searcher}

private theorem perform_options_of_isLookup (searcher : Searcher) {call : Call}
    (h : call.isLookup) :
    (searcher.perform call).2.options = searcher.options := by
  rw [perform_options]
  cases call with
  | filter candidate query => rfl
  | filterAll candidates query => rfl
  | compile query => rfl
  | explain query => rfl
  | replaceTokens and or => exact absurd h Bool.false_ne_true
  | setCaseMode mode => exact absurd h Bool.false_ne_true
  | forget => exact absurd h Bool.false_ne_true

private theorem run_options_of_isLookup (searcher : Searcher) {calls : List Call}
    (h : ∀ call ∈ calls, call.isLookup) : (searcher.run calls).options = searcher.options := by
  induction calls generalizing searcher with
  | nil => rfl
  | cons call calls ih =>
    rw [List.forall_mem_cons] at h
    have hcall := perform_options_of_isLookup searcher h.1
    exact (ih (searcher.perform call).2 h.2).trans hcall

private theorem IsCoherent.found?_perform (h : searcher.IsCoherent) (query : Text) (call : Call) :
    found? query (call, (searcher.perform call).1) =
      (call.candidate? query).filter (satisfies (searcher.options.compile query)) := by
  cases call with
  | filter candidate query' =>
    have hanswer : (searcher.perform (.filter candidate query')).1 =
        .verdict (satisfies (searcher.options.compile query') candidate) :=
      congrArg Answer.verdict (h.filter_fst candidate query')
    rw [hanswer, Call.candidate?]
    by_cases hquery : query' = query
    · subst hquery
      rw [if_pos rfl, Option.filter_some]
      cases satisfies (searcher.options.compile query') candidate
      · rfl
      · exact if_pos rfl
    · rw [if_neg hquery, Option.filter_none]
      cases satisfies (searcher.options.compile query') candidate
      · rfl
      · exact if_neg hquery
  | _ => rfl

/-- The candidates found in a run of lookups are those of its calls that satisfy the query. -/
theorem IsCoherent.found_transcript (h : searcher.IsCoherent) (query : Text) {calls : List Call}
    (hlookups : ∀ call ∈ calls, call.isLookup) :
    (searcher.transcript calls).filterMap (found? query) =
      (calls.filterMap (Call.candidate? query)).filter
        (satisfies (searcher.options.compile query)) := by
  induction calls generalizing searcher with
  | nil => rfl
  | cons call calls ih =>
    rw [List.forall_mem_cons] at hlookups
    have hrest := ih (h.perform call) hlookups.2
    -- The call may have changed what is remembered, but not what the query compiles to.
    rw [perform_options_of_isLookup searcher hlookups.1] at hrest
    rw [transcript, List.filterMap_cons, List.filterMap_cons, h.found?_perform, hrest]
    cases call.candidate? query with
    | none => rfl
    | some candidate =>
      rw [Option.filter_some]
      cases hsatisfied : satisfies (searcher.options.compile query) candidate
      · simp [hsatisfied]
      · simp [hsatisfied]

end Lookups

namespace AgreesUpToCounts

variable {searcher other : Searcher}

private theorem refl (searcher : Searcher) : searcher.AgreesUpToCounts searcher := ⟨rfl, rfl, rfl⟩

private theorem symm (h : searcher.AgreesUpToCounts other) : other.AgreesUpToCounts searcher :=
  ⟨h.options_eq.symm, h.entries_eq.symm, h.resets_eq.symm⟩

private theorem trans {third : Searcher} (h : searcher.AgreesUpToCounts other)
    (h' : other.AgreesUpToCounts third) : searcher.AgreesUpToCounts third :=
  ⟨h.options_eq.trans h'.options_eq, h.entries_eq.trans h'.entries_eq,
    h.resets_eq.trans h'.resets_eq⟩

variable [Engine]

private theorem compile (h : searcher.AgreesUpToCounts other) (query : Text) :
    (searcher.compile query).2.AgreesUpToCounts (other.compile query).2 := by
  obtain ⟨hoptions, hentries, hresets⟩ := h
  have hfind : searcher.memo.find? query = other.memo.find? query := by
    rw [Memo.find?, Memo.find?, hentries]
  rw [Searcher.compile, Searcher.compile, hfind, hoptions]
  cases other.memo.find? query with
  | some condition => exact ⟨rfl, hentries, hresets⟩
  | none =>
    cases other.options.compile query with
    | error error => exact ⟨rfl, hentries, hresets⟩
    | ok condition => exact ⟨rfl, congrArg (List.cons (query, condition)) hentries, hresets⟩

private theorem compile_compile (searcher : Searcher) (query : Text) :
    ((searcher.compile query).2.compile query).2.AgreesUpToCounts (searcher.compile query).2 := by
  cases hfind : searcher.memo.find? query with
  | some condition =>
    rw [compile_of_find? hfind]
    have hagain : ({ searcher with memo := searcher.memo.hit } : Searcher).memo.find? query =
        some condition := hfind
    rw [compile_of_find? hagain]
    exact ⟨rfl, rfl, rfl⟩
  | none =>
    cases hcompile : searcher.options.compile query with
    | ok condition =>
      rw [compile_of_ok hfind hcompile]
      have hagain : ({ searcher with memo := searcher.memo.learn query condition } :
          Searcher).memo.find? query = some condition := Memo.find?_learn_self _ _ _
      rw [compile_of_find? hagain]
      exact ⟨rfl, rfl, rfl⟩
    | error error =>
      rw [compile_of_error hfind hcompile]
      -- An error is not remembered, so the query is compiled again and counted as unknown again.
      have hagain : ({ searcher with memo := searcher.memo.miss } : Searcher).memo.find? query =
          none := hfind
      rw [compile_of_error hagain hcompile]
      exact ⟨rfl, rfl, rfl⟩

private theorem run_filter {query : Text} (h : (searcher.compile query).2.AgreesUpToCounts other)
    (candidates : List Text) :
    (searcher.compile query).2.AgreesUpToCounts
      (other.run (candidates.map fun candidate => .filter candidate query)) := by
  induction candidates generalizing other with
  | nil => exact h
  | cons candidate candidates ih =>
    have hagain := (compile_compile searcher query).symm
    have hnext : (searcher.compile query).2.AgreesUpToCounts (other.compile query).2 :=
      hagain.trans (h.compile query)
    exact ih hnext

end AgreesUpToCounts

/-- Filtering a list keeps the candidates, in order and as often as they are listed, that a call of
their own says yes to. The calls may be made one after another, in any order and between other
lookups. The list leaves the searcher as one lookup of the query does, and as any calls that filter
by the query do but for the counts. -/
theorem filterAll_eq_filter_calls [Engine] {searcher : Searcher}
    (hreachable : searcher.IsReachable) (candidates : List Text) (query : Text) :
    (searcher.filterAll candidates query).1 =
        candidates.filter (fun candidate => (searcher.filter candidate query).1) ∧
      (∀ calls : List Call, (∀ call ∈ calls, call.isLookup) →
        (∀ candidate, ((searcher.run calls).filter candidate query).1 =
            (searcher.filter candidate query).1) ∧
        (calls.filterMap (Call.candidate? query) = candidates →
          (searcher.transcript calls).filterMap (found? query) =
            (searcher.filterAll candidates query).1) ∧
        ((calls.filterMap (Call.candidate? query)).Perm candidates →
          ((searcher.transcript calls).filterMap (found? query)).Perm
            (searcher.filterAll candidates query).1)) ∧
      (searcher.filterAll candidates query).2 = (searcher.compile query).2 ∧
      ∀ series : List Text, series ≠ [] →
        (searcher.filterAll candidates query).2.AgreesUpToCounts
          (searcher.run (series.map fun candidate => .filter candidate query)) := by
  have hcoherent := hreachable.isCoherent
  refine ⟨?_, ?_, rfl, ?_⟩
  · rw [hcoherent.filterAll_fst]
    apply List.filter_congr
    intro candidate _
    rw [hcoherent.filter_fst]
  · intro calls hlookups
    have hfound := hcoherent.found_transcript query hlookups
    rw [hfound, hcoherent.filterAll_fst]
    refine ⟨?_, ?_, ?_⟩
    · intro candidate
      rw [(hcoherent.run calls).filter_fst, hcoherent.filter_fst,
        run_options_of_isLookup searcher hlookups]
    · intro hcandidates
      rw [hcandidates]
    · intro hperm
      exact hperm.filter _
  · intro series hseries
    obtain ⟨first, rest, rfl⟩ := List.exists_cons_of_ne_nil hseries
    exact (AgreesUpToCounts.refl (searcher.compile query).2).run_filter rest

def callsBetweenLookups (query : Text) : List Call :=
  [.filter "b".toList query, .compile "c".toList, .filter "x".toList "x && y".toList,
    .filter [] query, .explain query, .filter "B a".toList query]

theorem filterAll_eq_three_filter_calls :
    let query := "a || b".toList
    let searcher : Searcher := {}
    let candidates := ["B a".toList, [], "b".toList]
    searcher.IsReachable ∧ (∀ call ∈ callsBetweenLookups query, call.isLookup) ∧
      ((callsBetweenLookups query).filterMap (Call.candidate? query)).Perm candidates ∧
      ((searcher.transcript (callsBetweenLookups query)).filterMap (found? query)).Perm
        (searcher.filterAll candidates query).1 ∧
      candidates ≠ [] ∧ (searcher.filterAll candidates query).2.AgreesUpToCounts
        (searcher.run (candidates.map fun candidate => .filter candidate query)) := by
  intro query searcher candidates
  have hreachable : searcher.IsReachable := ⟨{}, [], rfl⟩
  have hlookups : ∀ call ∈ callsBetweenLookups query, call.isLookup := by decide
  have hperm : ((callsBetweenLookups query).filterMap (Call.candidate? query)).Perm candidates := by
    decide
  obtain ⟨-, hcalls, -, hseries⟩ := filterAll_eq_filter_calls hreachable candidates query
  exact ⟨hreachable, hlookups, hperm, (hcalls _ hlookups).2.2 hperm, List.cons_ne_nil _ _,
    hseries candidates (List.cons_ne_nil _ _)⟩

end Searcher

end BooleanSearch
