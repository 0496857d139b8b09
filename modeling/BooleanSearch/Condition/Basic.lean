import BooleanSearch.Pattern.Source
import BooleanSearch.Query.Piece

set_option autoImplicit false
set_option relaxedAutoImplicit false

namespace BooleanSearch

/-- What a compiled query asks of a candidate. -/
inductive Condition where
  /-- The pattern occurs. -/
  | term (mode : CaseMode) (pattern : Pattern)
  /-- One of the patterns occurs, or there is none to ask for. -/
  | anyOf (mode : CaseMode) (patterns : List Pattern)
  /-- All patterns occur, in any order. -/
  | allOf (mode : CaseMode) (patterns : List Pattern)
  /-- Enough of the conditions hold for the operators between them. -/
  | sequence (pieces : List (Piece Condition))

mutual

def Condition.describe : Condition → Text
  | .term _ pattern => "Term /".toList ++ pattern.source ++ ['/']
  | .anyOf _ patterns => "AnyOf /".toList ++ alternationSource patterns ++ ['/']
  | .allOf _ patterns =>
    "AllOf [".toList ++
      [',', ' '].intercalate (patterns.map fun pattern => ['/'] ++ pattern.source ++ ['/']) ++ [']']
  | .sequence pieces =>
    "Sequence [".toList ++ [' '].intercalate (Condition.describePieces pieces) ++ [']']

def Condition.describePieces : List (Piece Condition) → List Text
  | [] => []
  | .operand condition :: pieces => condition.describe :: Condition.describePieces pieces
  | .operator op :: pieces => op.name :: Condition.describePieces pieces

end

theorem Condition.describePieces_eq_map (pieces : List (Piece Condition)) :
    Condition.describePieces pieces = pieces.map (Piece.describe Condition.describe) := by
  induction pieces with
  | nil => rfl
  | cons piece pieces ih => cases piece <;> simp [Condition.describePieces, Piece.describe, ih]

namespace Condition

theorem describe_term (mode : CaseMode) (pattern : Pattern) :
    (term mode pattern).describe = "Term /".toList ++ pattern.source ++ ['/'] := rfl

theorem describe_anyOf (mode : CaseMode) (patterns : List Pattern) :
    (anyOf mode patterns).describe = "AnyOf /".toList ++ alternationSource patterns ++ ['/'] := rfl

theorem describe_allOf (mode : CaseMode) (patterns : List Pattern) :
    (allOf mode patterns).describe = "AllOf [".toList ++
      [',', ' '].intercalate (patterns.map fun pattern => ['/'] ++ pattern.source ++ ['/']) ++
        [']'] := rfl

theorem describe_sequence (pieces : List (Piece Condition)) :
    (sequence pieces).describe = "Sequence [".toList ++
      [' '].intercalate (pieces.map (Piece.describe describe)) ++ [']'] := by
  rw [← describePieces_eq_map]
  rfl

end Condition

end BooleanSearch
