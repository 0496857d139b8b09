import BooleanSearch.Condition.Engine
import BooleanSearch.Query.Grouping
import BooleanSearch.Query.Options

/-!
# Compiling a query

A query is trimmed, cut into terms, grouped into runs, and each run becomes one expression: a term
by itself, an alternation, or a set of patterns that must all occur. The engine is asked about each
expression by itself, never about all of them, and a query fails as soon as one of its expressions
is refused.
-/

set_option autoImplicit false
set_option relaxedAutoImplicit false

namespace BooleanSearch

variable [Engine]

/-- The condition, if the engine builds its expression. -/
def Options.build (options : Options) (condition : Condition) : Except QueryError Condition :=
  if Engine.builds options.sizeLimit condition then .ok condition
  else .error (.oversized options.sizeLimit)

def Options.termCondition (options : Options) (term : Text) : Except QueryError Condition :=
  options.build (.term options.caseMode (.ofTerm term))

/-- The condition of a run. The tag of a single term says nothing; other runs without a tag are
read as joined by OR. -/
def Options.runCondition (options : Options) (run : Run) : Except QueryError Condition :=
  match run.tag, run.terms with
  | _, [term] => options.termCondition term
  | some .and, terms => options.build (.allOf options.caseMode (terms.map Pattern.ofTerm))
  | _, terms => options.build (.anyOf options.caseMode (terms.map Pattern.ofTerm))

def Options.condition (options : Options) : Grouping → Except QueryError Condition
  | .lone term => options.termCondition term
  | .single run => options.runCondition run
  | .mixed pieces => return .sequence (← pieces.mapM (Piece.mapM options.runCondition))

/-- The condition of a query; one that is empty after trimming has none. -/
def Options.compile (options : Options) (query : Text) : Except QueryError (Option Condition) :=
  match Segments.ofText? options.tokens (trim query) with
  | none => .ok none
  | some segments => some <$> options.condition (.ofSegments segments)

end BooleanSearch
