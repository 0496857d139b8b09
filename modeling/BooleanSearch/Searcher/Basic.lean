import BooleanSearch.Condition.Holds
import BooleanSearch.Query.Compile
import BooleanSearch.Searcher.Memo

/-!
# Searchers

A searcher answers whether candidates satisfy queries under its options. It compiles each query once
and forgets what it compiled whenever an option changes, so its memory never shows in its answers.
-/

set_option autoImplicit false
set_option relaxedAutoImplicit false

namespace BooleanSearch

/-- Options and what is remembered under them. -/
structure Searcher where
  options : Options := {}
  memo : Memo := {}

/-- Whether a candidate satisfies a query that compiled to this. A query without a condition is
satisfied by every candidate; else the empty candidate satisfies none, and a query that did not
compile is satisfied by no candidate. -/
def satisfies (compiled : Except QueryError (Option Condition)) (candidate : Text) : Bool :=
  match compiled with
  | .error _ => false
  | .ok none => true
  | .ok (some condition) => !candidate.isEmpty && condition.holds candidate

namespace Searcher

variable [Engine]

/-- The condition of a query, remembered or compiled now. -/
def compile (searcher : Searcher) (query : Text) :
    Except QueryError (Option Condition) × Searcher :=
  match searcher.memo.find? query with
  | some condition => (.ok condition, { searcher with memo := searcher.memo.hit })
  | none =>
    match searcher.options.compile query with
    | .ok condition => (.ok condition, { searcher with memo := searcher.memo.learn query condition })
    | .error error => (.error error, { searcher with memo := searcher.memo.miss })

def filter (searcher : Searcher) (candidate query : Text) : Bool × Searcher :=
  let (compiled, searcher) := searcher.compile query
  (satisfies compiled candidate, searcher)

def filterAll (searcher : Searcher) (candidates : List Text) (query : Text) :
    List Text × Searcher :=
  let (compiled, searcher) := searcher.compile query
  (candidates.filter (satisfies compiled), searcher)

/-- Take over options; if they differ from those in effect, what was compiled is forgotten. -/
def configure (searcher : Searcher) (options : Options) : Searcher :=
  if options = searcher.options then searcher
  else { options, memo := searcher.memo.reset }

def replaceTokens (searcher : Searcher) (and or : Option Text) : Searcher :=
  let tokens := (searcher.options.tokens.replace .and and).replace .or or
  searcher.configure { searcher.options with tokens }

def setCaseMode (searcher : Searcher) (caseMode : CaseMode) : Searcher :=
  searcher.configure { searcher.options with caseMode }

def forget (searcher : Searcher) : Searcher := { searcher with memo := searcher.memo.reset }

def stats (searcher : Searcher) : Stats := searcher.memo.stats

end Searcher

end BooleanSearch
