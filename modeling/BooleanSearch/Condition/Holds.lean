import BooleanSearch.Condition.Basic

/-!
# When a condition holds

Patterns are looked for anywhere in the candidate. In a sequence each condition that holds is one
vote; one vote is needed, and one more for each AND that something follows.
-/

set_option autoImplicit false
set_option relaxedAutoImplicit false

namespace BooleanSearch

/-- The votes that a sequence needs: one, and one for each AND before its last entry. -/
def votesNeeded {α : Type} (pieces : List (Piece α)) : Nat :=
  1 + (operators pieces.dropLast).count .and

def enoughVotes (verdicts : List (Piece Bool)) : Bool :=
  votesNeeded verdicts ≤ (operands verdicts).count true

mutual

def Condition.holds (candidate : Text) : Condition → Bool
  | .term mode pattern => pattern.occursIn mode candidate
  | .anyOf mode patterns => patterns.isEmpty || patterns.any (·.occursIn mode candidate)
  | .allOf mode patterns => patterns.all (·.occursIn mode candidate)
  | .sequence pieces => enoughVotes (Condition.verdicts candidate pieces)

def Condition.verdicts (candidate : Text) : List (Piece Condition) → List (Piece Bool)
  | [] => []
  | .operand condition :: pieces =>
    .operand (condition.holds candidate) :: Condition.verdicts candidate pieces
  | .operator op :: pieces => .operator op :: Condition.verdicts candidate pieces

end

theorem Condition.verdicts_eq_map (candidate : Text) (pieces : List (Piece Condition)) :
    Condition.verdicts candidate pieces = pieces.map (Piece.map (Condition.holds candidate)) := by
  induction pieces with
  | nil => rfl
  | cons piece pieces ih => cases piece <;> simp [Condition.verdicts, Piece.map, ih]

end BooleanSearch
