import BooleanSearch.Condition.Estimate
import BooleanSearch.Searcher.Call

/-!
# Memory and history

What a searcher remembers of a query is what the query compiles to now. Every call keeps this, so
what was called before shows in an answer only through the options that are left.
-/

set_option autoImplicit false
set_option relaxedAutoImplicit false

namespace BooleanSearch

theorem Memo.mem_entries_of_find? {memo : Memo} {query : Text} {condition : Option Condition}
    (h : memo.find? query = some condition) : (query, condition) ∈ memo.entries := by
  obtain ⟨before, after, hentries, -⟩ := List.lookup_eq_some_iff.1 h
  rw [hentries]
  exact List.mem_append_right _ List.mem_cons_self

theorem Memo.find?_learn_self (memo : Memo) (query : Text) (condition : Option Condition) :
    (memo.learn query condition).find? query = some condition := by
  rw [find?, learn, List.lookup_cons_self]

private theorem Memo.find?_learn_of_ne (memo : Memo) {query other : Text} (h : other ≠ query)
    (condition : Option Condition) :
    (memo.learn query condition).find? other = memo.find? other := by
  rw [find?, find?, learn, List.lookup_cons, beq_false_of_ne h]

namespace Searcher

theorem configure_options (searcher : Searcher) (options : Options) :
    (searcher.configure options).options = options := by
  rw [configure]
  split
  · rename_i h
    exact h.symm
  · rfl

def optionsAfter (options : Options) : Call → Options
  | .replaceTokens and or =>
    { options with tokens := (options.tokens.replace .and and).replace .or or }
  | .setCaseMode caseMode => { options with caseMode }
  | _ => options

section Runs

variable [Engine]

/-- Every remembered condition is the one that its query compiles to under the options in effect. -/
def IsCoherent (searcher : Searcher) : Prop :=
  ∀ query condition, (query, condition) ∈ searcher.memo.entries →
    searcher.options.compile query = .ok condition

/-- A state that calls lead to from a searcher that was just made. -/
def IsReachable (searcher : Searcher) : Prop :=
  ∃ options calls, ({ options } : Searcher).run calls = searcher

theorem isCoherent_of_entries_eq_nil {searcher : Searcher} (h : searcher.memo.entries = []) :
    searcher.IsCoherent := by
  intro query condition hentry
  rw [h] at hentry
  exact absurd hentry List.not_mem_nil

variable {searcher : Searcher}

section Lookup

variable {query : Text}

theorem compile_of_find? {condition : Option Condition}
    (h : searcher.memo.find? query = some condition) :
    searcher.compile query = (.ok condition, { searcher with memo := searcher.memo.hit }) := by
  rw [compile, h]

theorem compile_of_ok {condition : Option Condition} (hfind : searcher.memo.find? query = none)
    (hcompile : searcher.options.compile query = .ok condition) :
    searcher.compile query =
      (.ok condition, { searcher with memo := searcher.memo.learn query condition }) := by
  rw [compile, hfind, hcompile]

theorem compile_of_error {error : QueryError} (hfind : searcher.memo.find? query = none)
    (hcompile : searcher.options.compile query = .error error) :
    searcher.compile query = (.error error, { searcher with memo := searcher.memo.miss }) := by
  rw [compile, hfind, hcompile]

end Lookup

theorem IsCoherent.compile_of_find? (h : searcher.IsCoherent) {query : Text}
    {condition : Option Condition} (hfind : searcher.memo.find? query = some condition) :
    searcher.options.compile query = .ok condition :=
  h query condition (Memo.mem_entries_of_find? hfind)

theorem IsCoherent.compile_fst (h : searcher.IsCoherent) (query : Text) :
    (searcher.compile query).1 = searcher.options.compile query := by
  cases hfind : searcher.memo.find? query with
  | some condition => rw [Searcher.compile_of_find? hfind, h.compile_of_find? hfind]
  | none =>
    cases hcompile : searcher.options.compile query with
    | ok condition => rw [compile_of_ok hfind hcompile]
    | error error => rw [compile_of_error hfind hcompile]

theorem compile_options (searcher : Searcher) (query : Text) :
    (searcher.compile query).2.options = searcher.options := by
  cases hfind : searcher.memo.find? query with
  | some condition => rw [compile_of_find? hfind]
  | none =>
    cases hcompile : searcher.options.compile query with
    | ok condition => rw [compile_of_ok hfind hcompile]
    | error error => rw [compile_of_error hfind hcompile]

theorem IsCoherent.compile_snd (h : searcher.IsCoherent) (query : Text) :
    (searcher.compile query).2.IsCoherent := by
  cases hfind : searcher.memo.find? query with
  | some condition =>
    rw [Searcher.compile_of_find? hfind]
    exact h
  | none =>
    cases hcompile : searcher.options.compile query with
    | error error =>
      rw [compile_of_error hfind hcompile]
      exact h
    | ok condition =>
      rw [compile_of_ok hfind hcompile]
      intro query' condition' hentry
      rcases List.mem_cons.1 hentry with heq | hentry
      · obtain ⟨rfl, rfl⟩ := Prod.mk.inj heq
        exact hcompile
      · exact h query' condition' hentry

theorem find?_compile_of_ne {query other : Text} (h : other ≠ query) :
    (searcher.compile query).2.memo.find? other = searcher.memo.find? other := by
  cases hfind : searcher.memo.find? query with
  | some condition =>
    rw [compile_of_find? hfind]
    rfl
  | none =>
    cases hcompile : searcher.options.compile query with
    | ok condition =>
      rw [compile_of_ok hfind hcompile]
      exact Memo.find?_learn_of_ne _ h condition
    | error error =>
      rw [compile_of_error hfind hcompile]
      rfl

theorem find?_compile_self {query : Text} {condition : Option Condition}
    (h : (searcher.compile query).1 = .ok condition) :
    (searcher.compile query).2.memo.find? query = some condition := by
  cases hfind : searcher.memo.find? query with
  | some known =>
    rw [compile_of_find? hfind] at h ⊢
    obtain rfl : known = condition := Except.ok.inj h
    exact hfind
  | none =>
    cases hcompile : searcher.options.compile query with
    | error error =>
      rw [compile_of_error hfind hcompile] at h
      exact absurd h (by simp)
    | ok compiled =>
      rw [compile_of_ok hfind hcompile] at h ⊢
      obtain rfl : compiled = condition := Except.ok.inj h
      exact Memo.find?_learn_self _ query compiled

theorem mem_entries_compile {query : Text} {condition : Option Condition}
    (h : (searcher.compile query).1 = .ok condition) :
    (query, condition) ∈ (searcher.compile query).2.memo.entries :=
  Memo.mem_entries_of_find? (find?_compile_self h)

theorem perform_options (searcher : Searcher) (call : Call) :
    (searcher.perform call).2.options = optionsAfter searcher.options call := by
  cases call with
  | filter candidate query => exact compile_options searcher query
  | filterAll candidates query => exact compile_options searcher query
  | compile query => exact compile_options searcher query
  | explain query => rfl
  | replaceTokens and or => exact configure_options searcher _
  | setCaseMode mode => exact configure_options searcher _
  | forget => rfl

theorem run_options (searcher : Searcher) (calls : List Call) :
    (searcher.run calls).options = calls.foldl optionsAfter searcher.options := by
  induction calls generalizing searcher with
  | nil => rfl
  | cons call calls ih =>
    rw [List.foldl_cons, ← perform_options]
    exact ih (searcher.perform call).2

private theorem IsCoherent.configure (h : searcher.IsCoherent) (options : Options) :
    (searcher.configure options).IsCoherent := by
  rw [Searcher.configure]
  split
  · exact h
  · exact isCoherent_of_entries_eq_nil rfl

theorem IsCoherent.perform (h : searcher.IsCoherent) (call : Call) :
    (searcher.perform call).2.IsCoherent := by
  cases call with
  | filter candidate query => exact h.compile_snd query
  | filterAll candidates query => exact h.compile_snd query
  | compile query => exact h.compile_snd query
  | explain query => exact h
  | replaceTokens and or => exact h.configure _
  | setCaseMode mode => exact h.configure _
  | forget => exact isCoherent_of_entries_eq_nil rfl

theorem IsCoherent.run (h : searcher.IsCoherent) (calls : List Call) :
    (searcher.run calls).IsCoherent := by
  induction calls generalizing searcher with
  | nil => exact h
  | cons call calls ih => exact ih (h.perform call)

theorem IsReachable.isCoherent (h : searcher.IsReachable) : searcher.IsCoherent := by
  obtain ⟨options, calls, rfl⟩ := h
  apply IsCoherent.run
  exact isCoherent_of_entries_eq_nil rfl

theorem IsReachable.perform (h : searcher.IsReachable) (call : Call) :
    (searcher.perform call).2.IsReachable := by
  obtain ⟨options, calls, rfl⟩ := h
  refine ⟨options, calls ++ [call], ?_⟩
  rw [run, List.foldl_append]
  rfl

theorem IsCoherent.filter_fst (h : searcher.IsCoherent) (candidate query : Text) :
    (searcher.filter candidate query).1 =
      satisfies (searcher.options.compile query) candidate := by
  rw [← h.compile_fst query]
  rfl

theorem IsCoherent.filterAll_fst (h : searcher.IsCoherent) (candidates : List Text)
    (query : Text) : (searcher.filterAll candidates query).1 =
      candidates.filter (satisfies (searcher.options.compile query)) := by
  rw [← h.compile_fst query]
  rfl

/-- After any run of calls every entry of the memory is what its query compiles to, and lookups
answer as in a new searcher with the options that are in effect. -/
theorem run_answers_eq_fresh (options : Options) (calls : List Call) :
    let searcher := ({ options } : Searcher).run calls
    let fresh : Searcher := { options := searcher.options }
    (∀ query condition, (query, condition) ∈ searcher.memo.entries →
      searcher.options.compile query = .ok condition) ∧
    (∀ query, (searcher.compile query).1 = (fresh.compile query).1) ∧
    (∀ candidate query, (searcher.filter candidate query).1 = (fresh.filter candidate query).1) ∧
    ∀ candidates query,
      (searcher.filterAll candidates query).1 = (fresh.filterAll candidates query).1 := by
  intro searcher fresh
  have hsearcher : searcher.IsCoherent := IsReachable.isCoherent ⟨options, calls, rfl⟩
  have hfresh : fresh.IsCoherent := isCoherent_of_entries_eq_nil rfl
  refine ⟨hsearcher, fun query => ?_, fun candidate query => ?_, fun candidates query => ?_⟩
  · rw [hsearcher.compile_fst, hfresh.compile_fst]
  · rw [hsearcher.filter_fst, hfresh.filter_fst]
  · rw [hsearcher.filterAll_fst, hfresh.filterAll_fst]

end Runs

def lookupsAroundCaseChange : List Call :=
  [.compile "apple".toList, .setCaseMode .sensitive, .filter "Apple pie".toList "Apple".toList]

theorem entry_after_case_change :
    ("Apple".toList, some (.term .sensitive (.ofTerm "Apple".toList))) ∈
        (({} : Searcher).run lookupsAroundCaseChange).memo.entries ∧
      (({} : Searcher).run lookupsAroundCaseChange).options.compile "Apple".toList =
        .ok (some (.term .sensitive (.ofTerm "Apple".toList))) := by
  have hentry : ("Apple".toList, some (.term .sensitive (.ofTerm "Apple".toList))) ∈
      (({} : Searcher).run lookupsAroundCaseChange).memo.entries := by
    let searcher := ({} : Searcher).run [.compile "apple".toList, .setCaseMode .sensitive]
    have hcoherent : searcher.IsCoherent := IsReachable.isCoherent ⟨{}, _, rfl⟩
    have hoptions : searcher.options = { caseMode := .sensitive } := by
      rw [run_options]
      rfl
    have htrim : trim "Apple".toList = "Apple".toList := by decide
    have hsplit : Tokens.standard.split "Apple".toList = .last "Apple".toList := by decide +kernel
    have hcompile : (searcher.compile "Apple".toList).1 =
        .ok (some (.term .sensitive (.ofTerm "Apple".toList))) := by
      rw [hcoherent.compile_fst, hoptions, Options.compile, htrim,
        Segments.ofText?_of_ne_nil (by decide), hsplit]
      rfl
    exact mem_entries_compile hcompile
  exact ⟨hentry, (run_answers_eq_fresh {} lookupsAroundCaseChange).1 _ _ hentry⟩

end Searcher

end BooleanSearch
