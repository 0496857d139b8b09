import BooleanSearch.Query.Operator

/-!
# Sequences of operands and operators

A query is seen at every stage as operands with operators between them: terms, then runs of terms,
then conditions on a candidate. `Piece` is one entry of such a sequence, with no promise on what
follows what; `Chain` is a sequence in which operands and operators alternate.
-/

set_option autoImplicit false
set_option relaxedAutoImplicit false

namespace BooleanSearch

variable {α β : Type}

/-- One entry of a sequence of operands and operators. -/
inductive Piece (α : Type) where
  | operand (value : α)
  | operator (op : Operator)
  deriving DecidableEq

namespace Piece

def operand? : Piece α → Option α
  | .operand value => some value
  | .operator _ => none

def operator? : Piece α → Option Operator
  | .operand _ => none
  | .operator op => some op

def map (f : α → β) : Piece α → Piece β
  | .operand value => .operand (f value)
  | .operator op => .operator op

def mapM {m : Type → Type} [Monad m] (f : α → m β) : Piece α → m (Piece β)
  | .operand value => do return .operand (← f value)
  | .operator op => return .operator op

def dual : Piece α → Piece α
  | .operand value => .operand value
  | .operator op => .operator op.dual

def describe (f : α → Text) : Piece α → Text
  | .operand value => f value
  | .operator op => op.name

end Piece

def operands (pieces : List (Piece α)) : List α := pieces.filterMap Piece.operand?

def operators (pieces : List (Piece α)) : List Operator := pieces.filterMap Piece.operator?

@[simp]
theorem operands_map (f : α → β) (pieces : List (Piece α)) :
    operands (pieces.map (Piece.map f)) = (operands pieces).map f := by
  induction pieces with
  | nil => rfl
  | cons piece pieces ih =>
    cases piece with
    | operand value => exact congrArg (f value :: ·) ih
    | operator op => exact ih

@[simp]
theorem operators_map (f : α → β) (pieces : List (Piece α)) :
    operators (pieces.map (Piece.map f)) = operators pieces := by
  induction pieces with
  | nil => rfl
  | cons piece pieces ih =>
    cases piece with
    | operand value => exact ih
    | operator op => exact congrArg (op :: ·) ih

/-- Operands joined by operators: an operand, then any number of operators each with an operand. -/
inductive Chain (α : Type) where
  | last (value : α)
  | link (value : α) (op : Operator) (rest : Chain α)
  deriving DecidableEq

namespace Chain

def pieces : Chain α → List (Piece α)
  | .last value => [.operand value]
  | .link value op rest => .operand value :: .operator op :: rest.pieces

def map (f : α → β) : Chain α → Chain β
  | .last value => .last (f value)
  | .link value op rest => .link (f value) op (rest.map f)

def mapHead (f : α → α) : Chain α → Chain α
  | .last value => .last (f value)
  | .link value op rest => .link (f value) op rest

@[simp]
theorem mapHead_mapHead (f g : α → α) (chain : Chain α) :
    (chain.mapHead f).mapHead g = chain.mapHead (g ∘ f) := by
  cases chain <;> rfl

def dual : Chain α → Chain α
  | .last value => .last value
  | .link value op rest => .link value op.dual rest.dual

@[simp]
theorem operands_pieces_last (value : α) : operands (last value).pieces = [value] := rfl

@[simp]
theorem operands_pieces_link (value : α) (op : Operator) (rest : Chain α) :
    operands (link value op rest).pieces = value :: operands rest.pieces := rfl

@[simp]
theorem operators_pieces_last (value : α) : operators (last value).pieces = [] := rfl

@[simp]
theorem operators_pieces_link (value : α) (op : Operator) (rest : Chain α) :
    operators (link value op rest).pieces = op :: operators rest.pieces := rfl

theorem pieces_injective {c d : Chain α} (h : c.pieces = d.pieces) : c = d := by
  induction c generalizing d with
  | last value =>
    cases d with
    | last value' => simpa [pieces] using h
    | link value' op' rest' => simp [pieces] at h
  | link value op rest ih =>
    cases d with
    | last value' => simp [pieces] at h
    | link value' op' rest' =>
      simp only [pieces, List.cons.injEq, Piece.operand.injEq, Piece.operator.injEq] at h
      obtain ⟨rfl, rfl, hrest⟩ := h
      rw [ih hrest]

def append (op : Operator) : Chain α → Chain α → Chain α
  | .last value, d => .link value op d
  | .link value op' rest, d => .link value op' (rest.append op d)

@[simp]
theorem pieces_append (op : Operator) (c d : Chain α) :
    (c.append op d).pieces = c.pieces ++ .operator op :: d.pieces := by
  induction c with
  | last value => rfl
  | link value op' rest ih => simp [append, pieces, ih]

theorem pieces_map (f : α → β) (chain : Chain α) :
    (chain.map f).pieces = chain.pieces.map (Piece.map f) := by
  induction chain with
  | last value => rfl
  | link value op rest ih => simp [map, pieces, Piece.map, ih]

@[simp]
theorem operands_pieces_map (f : α → β) (chain : Chain α) :
    operands (chain.map f).pieces = (operands chain.pieces).map f := by
  rw [pieces_map, operands_map]

@[simp]
theorem operators_pieces_map (f : α → β) (chain : Chain α) :
    operators (chain.map f).pieces = operators chain.pieces := by
  rw [pieces_map, operators_map]

theorem map_map {γ : Type} (f : α → β) (g : β → γ) (chain : Chain α) :
    (chain.map f).map g = chain.map fun a => g (f a) := by
  induction chain with
  | last value => rfl
  | link value op rest ih => rw [map, map, map, ih]

theorem map_congr {f g : α → β} {chain : Chain α} (h : ∀ a ∈ operands chain.pieces, f a = g a) :
    chain.map f = chain.map g := by
  induction chain with
  | last value => rw [map, map, h value (by simp)]
  | link value op rest ih =>
    rw [operands_pieces_link, List.forall_mem_cons] at h
    rw [map, map, h.1, ih h.2]

theorem pieces_ne_nil (chain : Chain α) : chain.pieces ≠ [] := by
  cases chain <;> simp [pieces]

theorem dropLast_pieces_link (value : α) (op : Operator) (rest : Chain α) :
    (link value op rest).pieces.dropLast =
      .operand value :: .operator op :: rest.pieces.dropLast := by
  rw [pieces, List.dropLast_cons_of_ne_nil (List.cons_ne_nil _ _),
    List.dropLast_cons_of_ne_nil rest.pieces_ne_nil]

theorem operators_dropLast_pieces (chain : Chain α) :
    operators chain.pieces.dropLast = operators chain.pieces := by
  induction chain with
  | last value => rfl
  | link value op rest ih =>
    rw [dropLast_pieces_link, operators_pieces_link, ← ih]
    rfl

theorem operands_dropLast_pieces (chain : Chain α) :
    operands chain.pieces.dropLast = (operands chain.pieces).dropLast := by
  induction chain with
  | last value => rfl
  | link value op rest ih =>
    have hne : operands rest.pieces ≠ [] := by cases rest <;> simp
    rw [dropLast_pieces_link, operands_pieces_link, List.dropLast_cons_of_ne_nil hne, ← ih]
    rfl

theorem pieces_dual (chain : Chain α) : chain.dual.pieces = chain.pieces.map Piece.dual := by
  induction chain with
  | last value => rfl
  | link value op rest ih => simp [dual, pieces, Piece.dual, ih]

@[simp]
theorem operands_pieces_dual (chain : Chain α) :
    operands chain.dual.pieces = operands chain.pieces := by
  induction chain with
  | last value => rfl
  | link value op rest ih => rw [dual, operands_pieces_link, operands_pieces_link, ih]

@[simp]
theorem operators_pieces_dual (chain : Chain α) :
    operators chain.dual.pieces = (operators chain.pieces).map Operator.dual := by
  induction chain with
  | last value => rfl
  | link value op rest ih =>
    rw [dual, operators_pieces_link, operators_pieces_link, ih, List.map_cons]

theorem dual_mapHead (f : α → α) (chain : Chain α) :
    (chain.mapHead f).dual = chain.dual.mapHead f := by
  cases chain <;> rfl

theorem dual_map (f : α → β) (chain : Chain α) : (chain.map f).dual = chain.dual.map f := by
  induction chain with
  | last value => rfl
  | link value op rest ih => rw [map, dual, ih, dual, map]

end Chain

end BooleanSearch
