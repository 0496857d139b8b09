import BooleanSearch.Searcher.Explanation

set_option autoImplicit false
set_option relaxedAutoImplicit false

namespace BooleanSearch

inductive Call where
  | filter (candidate query : Text)
  | filterAll (candidates : List Text) (query : Text)
  | compile (query : Text)
  | explain (query : Text)
  | replaceTokens (and or : Option Text)
  | setCaseMode (mode : CaseMode)
  | forget

inductive Answer where
  | verdict (satisfied : Bool)
  | kept (candidates : List Text)
  | compiled (result : Except QueryError (Option Condition))
  | explained (result : Except QueryError Explanation)
  | done

namespace Searcher

variable [Engine]

def perform (searcher : Searcher) : Call → Answer × Searcher
  | .filter candidate query =>
    let (satisfied, searcher) := searcher.filter candidate query
    (.verdict satisfied, searcher)
  | .filterAll candidates query =>
    let (kept, searcher) := searcher.filterAll candidates query
    (.kept kept, searcher)
  | .compile query =>
    let (result, searcher) := searcher.compile query
    (.compiled result, searcher)
  | .explain query => (.explained (searcher.explain query), searcher)
  | .replaceTokens and or => (.done, searcher.replaceTokens and or)
  | .setCaseMode mode => (.done, searcher.setCaseMode mode)
  | .forget => (.done, searcher.forget)

def run (searcher : Searcher) (calls : List Call) : Searcher :=
  calls.foldl (fun searcher call => (searcher.perform call).2) searcher

end Searcher

end BooleanSearch
