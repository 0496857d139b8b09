import BooleanSearch.Condition.Engine

/-!
# The engine of the program

To run, the program needs some engine. This one goes by an estimate: so many bytes for each atom and
none for the rest, which is right about expressions far from the limit, on either side of it. No
general result depends on it.
-/

set_option autoImplicit false
set_option relaxedAutoImplicit false

namespace BooleanSearch

def Atom.roughSize (mode : CaseMode) : Atom → Nat
  | .blanks => 720
  | .char c => if mode = .insensitive ∧ hasCaseVariant c then 80 else 32 * c.utf8Size

def Pattern.roughSize (mode : CaseMode) : Pattern → Nat
  | [] => 0
  | atom :: atoms => atom.roughSize mode + Pattern.roughSize mode atoms

def Condition.roughSize : Condition → Nat
  | .term mode pattern => pattern.roughSize mode
  | .anyOf mode patterns => Pattern.roughSize mode patterns.flatten
  | .allOf mode patterns => Pattern.roughSize mode patterns.flatten
  | .sequence _ => 0

instance Engine.rough : Engine where
  builds limit condition := decide (condition.roughSize ≤ limit)

end BooleanSearch
