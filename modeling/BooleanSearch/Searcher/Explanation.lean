import BooleanSearch.Searcher.Basic

set_option autoImplicit false
set_option relaxedAutoImplicit false

namespace BooleanSearch

/-- What a query becomes: its segments, their grouping and the condition. -/
structure Stages where
  segments : Segments
  grouping : Grouping
  condition : Condition

/-- A query, the options that matter to it, and its stages unless it is empty. -/
structure Explanation where
  query : Text
  tokens : Tokens
  caseMode : CaseMode
  stages : Option Stages

variable [Engine]

def Options.stages (options : Options) (query : Text) : Except QueryError (Option Stages) :=
  match Segments.ofText? options.tokens (trim query) with
  | none => .ok none
  | some segments =>
    let grouping := Grouping.ofSegments segments
    (fun condition => some ⟨segments, grouping, condition⟩) <$> options.condition grouping

def Searcher.explain (searcher : Searcher) (query : Text) : Except QueryError Explanation :=
  let options := searcher.options
  (fun stages => ⟨query, options.tokens, options.caseMode, stages⟩) <$> options.stages query

end BooleanSearch
