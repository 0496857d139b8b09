import BooleanSearch.Condition.Holds

set_option autoImplicit false
set_option relaxedAutoImplicit false

namespace BooleanSearch

variable {α : Type}

theorem count_true_cons (verdict : Bool) (verdicts : List Bool) :
    (verdict :: verdicts).count true = verdict.toNat + verdicts.count true := by
  cases verdict <;> simp [Nat.add_comm]

theorem count_and_cons (op : Operator) (ops : List Operator) :
    (op :: ops).count .and = (if op = .and then 1 else 0) + ops.count .and := by
  cases op <;> simp [Nat.add_comm]

theorem count_and_eq_length_iff {ops : List Operator} :
    ops.count .and = ops.length ↔ ∀ op ∈ ops, op = .and := by
  rw [List.count_eq_length]
  exact forall₂_congr fun _ _ => eq_comm

theorem count_and_eq_zero_iff {ops : List Operator} :
    ops.count .and = 0 ↔ ∀ op ∈ ops, op = .or := by
  rw [List.count_eq_zero]
  constructor
  · intro h op hop
    cases op
    · exact absurd hop h
    · rfl
  · intro h hand
    exact absurd (h .and hand) (by decide)

theorem length_operands_pieces (chain : Chain α) :
    (operands chain.pieces).length = (operators chain.pieces).length + 1 := by
  induction chain with
  | last value => rfl
  | link value op rest ih =>
    rw [Chain.operands_pieces_link, Chain.operators_pieces_link, List.length_cons, List.length_cons,
      ih]

theorem enoughVotes_pieces (verdicts : Chain Bool) :
    enoughVotes verdicts.pieces =
      decide (1 + (operators verdicts.pieces).count .and ≤
        (operands verdicts.pieces).count true) := by
  rw [enoughVotes, votesNeeded, Chain.operators_dropLast_pieces]

theorem enoughVotes_of_forall_verdict_eq {verdict : Bool} {verdicts : Chain Bool}
    (h : ∀ v ∈ operands verdicts.pieces, v = verdict) :
    enoughVotes verdicts.pieces = verdict := by
  have hlength := length_operands_pieces verdicts
  have hands : (operators verdicts.pieces).count .and ≤ (operators verdicts.pieces).length :=
    List.count_le_length
  rw [enoughVotes_pieces]
  cases verdict with
  | true =>
    have hall : (operands verdicts.pieces).count true = (operands verdicts.pieces).length :=
      List.count_eq_length.2 fun v hv => (h v hv).symm
    rw [decide_eq_true_iff, hall]
    omega
  | false =>
    have hnone : (operands verdicts.pieces).count true = 0 :=
      List.count_eq_zero.2 fun htrue => absurd (h true htrue) (by decide)
    rw [decide_eq_false_iff_not, hnone]
    omega

theorem enoughVotes_map_mono {pieces : List (Piece α)} {f g : α → Bool}
    (h : ∀ a ∈ operands pieces, f a → g a) (hf : enoughVotes (pieces.map (Piece.map f))) :
    enoughVotes (pieces.map (Piece.map g)) := by
  have hneeded : ∀ k : α → Bool, votesNeeded (pieces.map (Piece.map k)) = votesNeeded pieces := by
    intro k
    rw [votesNeeded, votesNeeded, ← List.map_dropLast, operators_map]
  have hcount : ∀ k : α → Bool,
      ((operands pieces).map k).count true = (operands pieces).countP k := by
    intro k
    rw [List.count, List.countP_map]
    exact List.countP_congr fun a _ => by simp
  have hle : (operands pieces).countP f ≤ (operands pieces).countP g := List.countP_mono_left h
  rw [enoughVotes, decide_eq_true_iff, hneeded, operands_map, hcount] at hf ⊢
  omega

theorem holds_sequence_pieces (conditions : Chain Condition) (candidate : Text) :
    (Condition.sequence conditions.pieces).holds candidate =
      enoughVotes (conditions.map (Condition.holds candidate)).pieces := by
  rw [Condition.holds, Condition.verdicts_eq_map, Chain.pieces_map]

theorem enoughVotes_last (verdict : Bool) :
    enoughVotes (Chain.last verdict).pieces = verdict := by
  cases verdict <;> rfl

end BooleanSearch
