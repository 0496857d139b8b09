import BooleanSearch.Text.Basic

set_option autoImplicit false
set_option relaxedAutoImplicit false

namespace BooleanSearch

/-- How two neighbouring terms of a query are joined. -/
inductive Operator where
  | and
  | or
  deriving DecidableEq

def Operator.name : Operator → Text
  | .and => "AND".toList
  | .or => "OR".toList

def Operator.dual : Operator → Operator
  | .and => .or
  | .or => .and

@[simp]
theorem Operator.dual_dual (op : Operator) : op.dual.dual = op := by
  cases op <;> rfl

theorem Operator.dual_ne (op : Operator) : op.dual ≠ op := by
  cases op <;> decide

theorem Operator.eq_dual_of_ne {op op' : Operator} (h : op ≠ op') : op' = op.dual := by
  cases op <;> cases op'
  · exact absurd rfl h
  · rfl
  · rfl
  · exact absurd rfl h

end BooleanSearch
