import BooleanSearch.Condition.Basic

set_option autoImplicit false
set_option relaxedAutoImplicit false

namespace BooleanSearch

/-- What builds the expressions of a query. An expression that is over a limit of bytes is refused,
and what the engine counts as its bytes is left open. -/
class Engine where
  /-- Whether the expression of the condition is built under the limit. -/
  builds (limit : Nat) (condition : Condition) : Bool

end BooleanSearch
