import BooleanSearch.Query.Segments

/-!
# Grouping terms into runs

Neighbouring terms joined by the same operator form a run. The operator that joins the first two
terms of a run is its tag; an operator that differs from the tag closes the run, stands by itself
between two runs, and joins nothing. So `a || b && c || d` is the run `a || b`, an AND, and the run
`c || d`.
-/

set_option autoImplicit false
set_option relaxedAutoImplicit false

namespace BooleanSearch

/-- Terms joined by one operator; a run opened after the last operator has no tag. -/
structure Run where
  tag : Option Operator
  terms : List Text
  deriving DecidableEq

def Run.describe (run : Run) : Text :=
  (run.tag.elim ['-'] Operator.name) ++ ['('] ++
    [',', ' '].intercalate (run.terms.map quoted) ++ [')']

inductive Grouping where
  /-- No operator in the query. -/
  | lone (term : Text)
  /-- All operators of the query are the same. -/
  | single (run : Run)
  /-- Runs with the operators that separate them. -/
  | mixed (pieces : List (Piece Run))
  deriving DecidableEq

/-- The operator at the second place of a sequence, which joins its first two terms. -/
def joiningOperator? {α : Type} (pieces : List (Piece α)) : Option Operator :=
  pieces[1]?.bind Piece.operator?

/-- The runs of the pieces still to read, when the open run has this tag and these terms. An open
run is closed by an operator other than its tag or by a term at the very end. -/
def runsFrom (tag : Option Operator) (terms : List Text) : List (Piece Text) → List (Piece Run)
  | [] => []
  | [.operand term] => [.operand ⟨tag, terms ++ [term]⟩]
  | .operand term :: piece :: pieces => runsFrom tag (terms ++ [term]) (piece :: pieces)
  | .operator op :: pieces =>
    if tag = some op then runsFrom tag terms pieces
    else .operand ⟨tag, terms⟩ :: .operator op :: runsFrom (joiningOperator? pieces) [] pieces

def runs (pieces : List (Piece Text)) : List (Piece Run) :=
  runsFrom (joiningOperator? pieces) [] pieces

namespace Grouping

def ofSegments : Segments → Grouping
  | .lone term => .lone term
  | .joined pieces =>
    match runs pieces with
    | [.operand run] => .single run
    | grouped => .mixed grouped

def describe : Grouping → Text
  | .lone term => quoted term
  | .single run => run.describe
  | .mixed pieces => ['['] ++ [' '].intercalate (pieces.map (Piece.describe Run.describe)) ++ [']']

end Grouping

end BooleanSearch
