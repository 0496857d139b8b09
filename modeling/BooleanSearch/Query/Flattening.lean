import BooleanSearch.Query.Grouping

set_option autoImplicit false
set_option relaxedAutoImplicit false

namespace BooleanSearch

def Run.pieces (run : Run) : List (Piece Text) :=
  let terms := run.terms.map Piece.operand
  run.tag.elim terms fun op => terms.intersperse (.operator op)

def Piece.flatten : Piece Run → List (Piece Text)
  | .operand run => run.pieces
  | .operator op => [.operator op]

/-- The terms and operators that a grouping is made of. -/
def Grouping.pieces : Grouping → List (Piece Text)
  | .lone term => [.operand term]
  | .single run => run.pieces
  | .mixed pieces => pieces.flatMap Piece.flatten

/-- A run without a term after its last joining operator. -/
def opening (op : Operator) (terms : List Text) : List (Piece Text) :=
  terms.flatMap fun term => [.operand term, .operator op]

theorem pieces_run_append (op : Operator) (terms : List Text) (term : Text) :
    (Run.mk (some op) (terms ++ [term])).pieces = opening op terms ++ [.operand term] := by
  induction terms with
  | nil => rfl
  | cons t terms ih =>
    cases terms with
    | nil => rfl
    | cons u terms => simpa [Run.pieces, opening] using ih

private theorem flatten_runsFrom (op : Operator) (terms : List Text) (chain : Chain Text) :
    (runsFrom (some op) terms chain.pieces).flatMap Piece.flatten =
      opening op terms ++ chain.pieces := by
  induction chain generalizing op terms with
  | last term => simp [Chain.pieces, runsFrom, Piece.flatten, pieces_run_append]
  | link term op' rest ih =>
    simp only [Chain.pieces, runsFrom]
    by_cases h : op = op'
    · subst h
      simp [ih, opening]
    · rw [if_neg (by simpa using h)]
      cases rest with
      | last term' =>
        have hlast : (Run.mk none [term']).pieces = [.operand term'] := rfl
        simp [Chain.pieces, joiningOperator?, runsFrom, Piece.flatten, pieces_run_append, hlast]
      | link term' op'' rest =>
        have hrest := ih op'' []
        simp only [Chain.pieces] at hrest
        simp [Chain.pieces, joiningOperator?, Piece.operator?, Piece.flatten, pieces_run_append,
          hrest, opening]

theorem flatten_runs (chain : Chain Text) :
    (runs chain.pieces).flatMap Piece.flatten = chain.pieces := by
  cases chain with
  | last term => rfl
  | link term op rest => exact flatten_runsFrom op [] (.link term op rest)

/-- The grouping of a chain holds its terms and operators in order. -/
theorem Grouping.pieces_ofSegments_joined (chain : Chain Text) :
    (Grouping.ofSegments (.joined chain.pieces)).pieces = chain.pieces := by
  have h := flatten_runs chain
  simp only [Grouping.ofSegments]
  split
  · rename_i hruns
    simpa [hruns, Piece.flatten, Grouping.pieces] using h
  · exact h

end BooleanSearch
