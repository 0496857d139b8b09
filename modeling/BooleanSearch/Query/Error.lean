import BooleanSearch.Query.Operator

set_option autoImplicit false
set_option relaxedAutoImplicit false

namespace BooleanSearch

inductive QueryError where
  /-- The token of this operator is empty. -/
  | emptyToken (op : Operator)
  /-- An expression is over this many bytes. -/
  | oversized (limit : Nat)
  deriving DecidableEq

def QueryError.message : QueryError → Text
  | .emptyToken op => "operator token for ".toList ++ op.name ++ " must not be empty".toList
  | .oversized limit =>
    "regex error: Compiled regex exceeds size limit of ".toList ++ Nat.toDigits 10 limit ++
      " bytes.".toList

end BooleanSearch
