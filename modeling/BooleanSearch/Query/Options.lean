import BooleanSearch.Query.Tokens
import BooleanSearch.Text.CaseFold

set_option autoImplicit false
set_option relaxedAutoImplicit false

namespace BooleanSearch

structure Options where
  tokens : Tokens := .standard
  caseMode : CaseMode := .insensitive
  /-- The most bytes that one expression may have. -/
  sizeLimit : Nat := 10 * 1024 * 1024
  deriving DecidableEq

end BooleanSearch
