import BooleanSearch.Proofs.Condition.Conservation
import BooleanSearch.Proofs.Condition.Votes

set_option autoImplicit false
set_option relaxedAutoImplicit false

namespace BooleanSearch

private theorem operands_append {α : Type} (pieces later : List (Piece α)) :
    operands (pieces ++ later) = operands pieces ++ operands later :=
  List.filterMap_append

@[simp]
theorem operands_joinedBy {α : Type} (op : Operator) (values : List α) :
    operands (joinedBy op values) = values := by
  induction values with
  | nil => rfl
  | cons first values ih =>
    cases values with
    | nil => rfl
    | cons second rest =>
      rw [joinedBy_cons_cons]
      exact congrArg (first :: ·) ih

namespace Condition

def patterns (condition : Condition) : List Pattern := operands condition.pieces

@[simp]
theorem patterns_term (mode : CaseMode) (pattern : Pattern) :
    (term mode pattern).patterns = [pattern] := by
  rw [patterns, pieces]
  rfl

@[simp]
theorem patterns_anyOf (mode : CaseMode) (patterns : List Pattern) :
    (anyOf mode patterns).patterns = patterns := by
  rw [Condition.patterns, pieces, operands_joinedBy]

@[simp]
theorem patterns_allOf (mode : CaseMode) (patterns : List Pattern) :
    (allOf mode patterns).patterns = patterns := by
  rw [Condition.patterns, pieces, operands_joinedBy]

theorem patterns_sequence (pieces : List (Piece Condition)) :
    (sequence pieces).patterns = (operands pieces).flatMap patterns := by
  rw [patterns, Condition.pieces]
  induction pieces with
  | nil => rfl
  | cons piece pieces ih =>
    cases piece with
    | operand condition =>
      rw [piecesOf, operands_append, ih]
      rfl
    | operator op =>
      rw [piecesOf]
      exact ih

variable {candidate other : Text}

mutual

theorem holds_mono : (condition : Condition) →
    (∀ pattern ∈ condition.patterns, ∀ mode,
      pattern.occursIn mode candidate → pattern.occursIn mode other) →
    condition.holds candidate → condition.holds other
  | .term mode pattern, hoccurs, h => by
    rw [patterns_term] at hoccurs
    rw [holds] at h ⊢
    exact hoccurs pattern (List.mem_singleton_self pattern) mode h
  | .anyOf mode patterns, hoccurs, h => by
    rw [patterns_anyOf] at hoccurs
    rw [holds, Bool.or_eq_true, List.any_eq_true] at h ⊢
    refine h.imp_right fun hany => ?_
    obtain ⟨pattern, hpattern, hone⟩ := hany
    exact ⟨pattern, hpattern, hoccurs pattern hpattern mode hone⟩
  | .allOf mode patterns, hoccurs, h => by
    rw [patterns_allOf] at hoccurs
    rw [holds, List.all_eq_true] at h ⊢
    exact fun pattern hpattern => hoccurs pattern hpattern mode (h pattern hpattern)
  | .sequence pieces, hoccurs, h => by
    rw [patterns_sequence] at hoccurs
    rw [holds, verdicts_eq_map] at h ⊢
    exact enoughVotes_map_mono (operands_hold_mono pieces hoccurs) h

theorem operands_hold_mono : (pieces : List (Piece Condition)) →
    (∀ pattern ∈ (operands pieces).flatMap patterns, ∀ mode,
      pattern.occursIn mode candidate → pattern.occursIn mode other) →
    ∀ condition ∈ operands pieces, condition.holds candidate → condition.holds other
  | [], _ => fun _ hmem => absurd hmem List.not_mem_nil
  | .operand first :: pieces, hoccurs => by
    obtain ⟨hfirst, hrest⟩ := List.forall_mem_append.1 hoccurs
    exact List.forall_mem_cons.2 ⟨holds_mono first hfirst, operands_hold_mono pieces hrest⟩
  | .operator _ :: pieces, hoccurs => operands_hold_mono pieces hoccurs

end

end Condition

theorem satisfies_mono {compiled : Except QueryError (Option Condition)} {candidate other : Text}
    (hne : candidate ≠ [] → other ≠ [])
    (hholds : ∀ condition, compiled = .ok (some condition) →
      condition.holds candidate → condition.holds other)
    (h : satisfies compiled candidate) : satisfies compiled other := by
  rcases compiled with error | condition
  · exact h
  · rcases condition with - | condition
    · rfl
    · rw [satisfies, Bool.and_eq_true, Bool.not_eq_true', List.isEmpty_eq_false_iff] at h ⊢
      exact ⟨hne h.1, hholds condition rfl h.2⟩

end BooleanSearch
