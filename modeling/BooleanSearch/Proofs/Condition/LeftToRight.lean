import BooleanSearch.Proofs.Condition.Votes

/-!
# Votes and joining from left to right

Verdicts with operators between them can be joined from left to right, neither operator binding
tighter. Votes say the same as long as only one operator occurs; for operators that differ there are
verdicts on which the two disagree.
-/

set_option autoImplicit false
set_option relaxedAutoImplicit false

namespace BooleanSearch

namespace Operator

def join : Operator → Bool → Bool → Bool
  | .and, a, b => a && b
  | .or, a, b => a || b

def joinAll : Operator → List Bool → Bool
  | .and, verdicts => verdicts.all id
  | .or, verdicts => verdicts.any id

/-- The verdict that settles a join whatever the other one is. -/
def settling : Operator → Bool
  | .and => false
  | .or => true

private theorem join_assoc (op : Operator) (a b c : Bool) :
    op.join (op.join a b) c = op.join a (op.join b c) := by
  cases op
  · exact Bool.and_assoc a b c
  · exact Bool.or_assoc a b c

@[simp]
theorem joinAll_singleton (op : Operator) (verdict : Bool) : op.joinAll [verdict] = verdict := by
  cases op <;> simp [joinAll]

@[simp]
theorem joinAll_cons (op : Operator) (verdict : Bool) (verdicts : List Bool) :
    op.joinAll (verdict :: verdicts) = op.join verdict (op.joinAll verdicts) := by
  cases op <;> rfl

@[simp]
theorem join_settling (op : Operator) (verdict : Bool) :
    op.join verdict op.settling = op.settling := by
  cases op <;> simp [join, settling]

end Operator

namespace Chain

def joinAfter (value : Bool) (op : Operator) : Chain Bool → Bool
  | .last verdict => op.join value verdict
  | .link verdict op' rest => rest.joinAfter (op.join value verdict) op'

/-- The value of verdicts joined from left to right, neither operator binding tighter. -/
def fromLeft : Chain Bool → Bool
  | .last verdict => verdict
  | .link verdict op rest => rest.joinAfter verdict op

private theorem joinAfter_of_forall_eq {op : Operator} {verdicts : Chain Bool}
    (h : ∀ a ∈ operators verdicts.pieces, a = op) (value : Bool) :
    verdicts.joinAfter value op = op.join value (op.joinAll (operands verdicts.pieces)) := by
  induction verdicts generalizing value with
  | last verdict => rw [joinAfter, operands_pieces_last, Operator.joinAll_singleton]
  | link verdict op' rest ih =>
    rw [operators_pieces_link, List.forall_mem_cons] at h
    obtain ⟨rfl, hrest⟩ := h
    rw [joinAfter, ih hrest, operands_pieces_link, Operator.joinAll_cons, Operator.join_assoc]

private theorem fromLeft_of_forall_eq {op : Operator} {verdicts : Chain Bool}
    (h : ∀ a ∈ operators verdicts.pieces, a = op) :
    verdicts.fromLeft = op.joinAll (operands verdicts.pieces) := by
  cases verdicts with
  | last verdict => rw [fromLeft, operands_pieces_last, Operator.joinAll_singleton]
  | link verdict op' rest =>
    rw [operators_pieces_link, List.forall_mem_cons] at h
    obtain ⟨rfl, hrest⟩ := h
    rw [fromLeft, joinAfter_of_forall_eq hrest, operands_pieces_link, Operator.joinAll_cons]

theorem enoughVotes_of_forall_eq {op : Operator} {verdicts : Chain Bool}
    (h : ∀ a ∈ operators verdicts.pieces, a = op) :
    enoughVotes verdicts.pieces = op.joinAll (operands verdicts.pieces) := by
  rw [enoughVotes_pieces, Bool.eq_iff_iff, decide_eq_true_iff]
  cases op with
  | and =>
    have hlength := length_operands_pieces verdicts
    have hands := count_and_eq_length_iff.2 h
    have hle : (operands verdicts.pieces).count true ≤ (operands verdicts.pieces).length :=
      List.count_le_length
    have hall : (operands verdicts.pieces).all id ↔
        (operands verdicts.pieces).count true = (operands verdicts.pieces).length := by
      rw [List.count_eq_length, List.all_eq_true]
      exact forall₂_congr fun _ _ => eq_comm
    rw [Operator.joinAll, hall, hands]
    omega
  | or =>
    rw [count_and_eq_zero_iff.2 h, Operator.joinAll, List.any_eq_true]
    simp [Nat.succ_le_iff, List.count_pos_iff]

def contrast (verdict : Bool) : List Operator → Chain Bool
  | [] => .last verdict
  | op :: ops => .link (!verdict) op (contrast verdict ops)

@[simp]
theorem operators_pieces_contrast (verdict : Bool) (ops : List Operator) :
    operators (contrast verdict ops).pieces = ops := by
  induction ops with
  | nil => rfl
  | cons op ops ih => rw [contrast, operators_pieces_link, ih]

private theorem count_true_contrast (verdict : Bool) (ops : List Operator) :
    (operands (contrast verdict ops).pieces).count true = if verdict then 1 else ops.length := by
  induction ops with
  | nil => cases verdict <;> rfl
  | cons op ops ih =>
    rw [contrast, operands_pieces_link, count_true_cons, ih]
    cases verdict <;> simp [Nat.add_comm]

private theorem joinAfter_contrast {ops : List Operator} {op last : Operator}
    (h : (op :: ops).getLast? = some last) (value : Bool) :
    (contrast last.settling ops).joinAfter value op = last.settling := by
  induction ops generalizing op value with
  | nil =>
    obtain rfl : op = last := by simpa using h
    exact op.join_settling value
  | cons op' ops ih =>
    rw [List.getLast?_cons_cons] at h
    exact ih h _

private theorem fromLeft_contrast {ops : List Operator} {last : Operator}
    (h : ops.getLast? = some last) :
    (contrast last.settling ops).fromLeft = last.settling := by
  cases ops with
  | nil => simp at h
  | cons op ops => exact joinAfter_contrast h _

private theorem enoughVotes_contrast (ops : List Operator) (last : Operator) :
    enoughVotes (contrast last.settling ops).pieces = last.settling ↔ ∀ a ∈ ops, a = last := by
  rw [enoughVotes_pieces, operators_pieces_contrast, count_true_contrast]
  cases last with
  | and =>
    -- All verdicts but the last are votes, and one OR makes that enough.
    have hle : ops.count .and ≤ ops.length := List.count_le_length
    rw [← count_and_eq_length_iff]
    simp only [Operator.settling, decide_eq_false_iff_not, Bool.false_eq_true, if_false]
    omega
  | or =>
    -- Only the last verdict is a vote, and one AND makes that too few.
    rw [← count_and_eq_zero_iff]
    simp only [Operator.settling, decide_eq_true_eq, if_true]
    omega

/-- Verdicts on which votes and joining from left to right disagree if the operators differ: the
last one settles the join, and all others are the opposite of it. -/
def dissent (ops : List Operator) : Chain Bool :=
  contrast (ops.getLast?.elim true Operator.settling) ops

theorem enoughVotes_dissent_ne {ops : List Operator} (h : ¬ ∀ a ∈ ops, ∀ b ∈ ops, a = b) :
    enoughVotes (dissent ops).pieces ≠ (dissent ops).fromLeft := by
  cases hlast : ops.getLast? with
  | none =>
    obtain rfl := List.getLast?_eq_none_iff.1 hlast
    simp at h
  | some last =>
    have hdissent : dissent ops = contrast last.settling ops := by rw [dissent, hlast]; rfl
    rw [hdissent, fromLeft_contrast hlast]
    intro hvotes
    have hall := (enoughVotes_contrast ops last).1 hvotes
    exact h fun a ha b hb => (hall a ha).trans (hall b hb).symm

/-- Votes say of all verdicts between these operators what joining from left to right says, exactly
if no two of the operators differ. -/
theorem enoughVotes_eq_fromLeft_iff (ops : List Operator) :
    (∀ verdicts : Chain Bool, operators verdicts.pieces = ops →
        enoughVotes verdicts.pieces = verdicts.fromLeft) ↔ ∀ a ∈ ops, ∀ b ∈ ops, a = b := by
  constructor
  · intro h
    refine Decidable.byContradiction fun hdiffer => ?_
    exact enoughVotes_dissent_ne hdiffer (h (dissent ops) (operators_pieces_contrast _ ops))
  · intro h verdicts hops
    subst hops
    cases hfirst : operators verdicts.pieces with
    | nil =>
      have hnone : ∀ a ∈ operators verdicts.pieces, a = .and := by simp [hfirst]
      rw [enoughVotes_of_forall_eq hnone, fromLeft_of_forall_eq hnone]
    | cons op ops =>
      have hall : ∀ a ∈ operators verdicts.pieces, a = op :=
        fun a ha => h a ha op (by simp [hfirst])
      rw [enoughVotes_of_forall_eq hall, fromLeft_of_forall_eq hall]

end Chain

namespace Condition

/-- A condition with this verdict on every candidate: no pattern to look for, or a vote needed where
nothing votes. -/
def ofBool : Bool → Condition
  | true => .anyOf .insensitive []
  | false => .sequence []

private theorem holds_ofBool (candidate : Text) (verdict : Bool) :
    (ofBool verdict).holds candidate = verdict := by
  cases verdict
  · rw [ofBool, holds, verdicts]
    rfl
  · rw [ofBool, holds]
    rfl

private theorem map_holds_ofBool (candidate : Text) (verdicts : Chain Bool) :
    (verdicts.map ofBool).map (holds candidate) = verdicts := by
  induction verdicts with
  | last verdict => rw [Chain.map, Chain.map, holds_ofBool]
  | link verdict op rest ih => rw [Chain.map, Chain.map, holds_ofBool, ih]

/-- Conditions with these operators between them can have any verdicts, and a sequence of them
holds as its verdicts joined from left to right do exactly if no two of the operators differ. Then
it holds if all of the conditions do, or one of them; else `Chain.dissent` is judged in two ways.
-/
theorem holds_sequence_eq_fromLeft_iff (ops : List Operator) (candidate : Text) :
    (∀ verdicts : Chain Bool, operators verdicts.pieces = ops →
        ∃ conditions : Chain Condition, conditions.map (holds candidate) = verdicts) ∧
      ((∀ conditions : Chain Condition, operators conditions.pieces = ops →
          (sequence conditions.pieces).holds candidate =
            (conditions.map (holds candidate)).fromLeft) ↔
        ∀ a ∈ ops, ∀ b ∈ ops, a = b) ∧
      (∀ op, (∀ a ∈ ops, a = op) → ∀ conditions : Chain Condition,
        operators conditions.pieces = ops →
          (sequence conditions.pieces).holds candidate =
            op.joinAll ((operands conditions.pieces).map (holds candidate))) ∧
      ((¬ ∀ a ∈ ops, ∀ b ∈ ops, a = b) → operators (Chain.dissent ops).pieces = ops ∧
        ∀ conditions : Chain Condition,
          conditions.map (holds candidate) = Chain.dissent ops →
            (sequence conditions.pieces).holds candidate ≠ (Chain.dissent ops).fromLeft) := by
  refine ⟨?_, ?_, ?_, ?_⟩
  · intro verdicts _
    exact ⟨verdicts.map ofBool, map_holds_ofBool candidate verdicts⟩
  · rw [← Chain.enoughVotes_eq_fromLeft_iff]
    constructor
    · intro h verdicts hops
      have hverdicts := map_holds_ofBool candidate verdicts
      have hsequence := h (verdicts.map ofBool) (by rw [Chain.operators_pieces_map, hops])
      rwa [holds_sequence_pieces, hverdicts] at hsequence
    · intro h conditions hops
      rw [holds_sequence_pieces]
      exact h _ (by rw [Chain.operators_pieces_map, hops])
  · intro op h conditions hops
    have hall : ∀ a ∈ operators (conditions.map (holds candidate)).pieces, a = op := by
      rwa [Chain.operators_pieces_map, hops]
    rw [holds_sequence_pieces, Chain.enoughVotes_of_forall_eq hall, Chain.operands_pieces_map]
  · intro h
    refine ⟨Chain.operators_pieces_contrast _ ops, ?_⟩
    intro conditions hverdicts
    rw [holds_sequence_pieces, hverdicts]
    exact Chain.enoughVotes_dissent_ne h

theorem holds_sequence_ne_fromLeft_or_and :
    let candidate := "b a".toList
    let conditions : Chain Condition :=
      .link (.term .insensitive (.ofTerm ['a'])) .or
        (.link (.term .insensitive (.ofTerm ['b'])) .and
          (.last (.term .insensitive (.ofTerm ['c']))))
    (¬ ∀ a ∈ [Operator.or, .and], ∀ b ∈ [Operator.or, .and], a = b) ∧
      conditions.map (holds candidate) = Chain.dissent [.or, .and] ∧
      (sequence conditions.pieces).holds candidate ≠ (Chain.dissent [.or, .and]).fromLeft := by
  intro candidate conditions
  have hdiffer : ¬ ∀ a ∈ [Operator.or, .and], ∀ b ∈ [Operator.or, .and], a = b := by decide
  have hverdicts : conditions.map (holds candidate) = Chain.dissent [.or, .and] := by decide
  have hsequence := (holds_sequence_eq_fromLeft_iff [.or, .and] candidate).2.2.2 hdiffer
  exact ⟨hdiffer, hverdicts, hsequence.2 conditions hverdicts⟩

end Condition

end BooleanSearch
