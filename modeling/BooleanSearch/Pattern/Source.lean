import BooleanSearch.Pattern.Basic

set_option autoImplicit false
set_option relaxedAutoImplicit false

namespace BooleanSearch

def metacharacters : Text := "\\.+*?()|[]\x7b\x7d^$#&-~".toList

def Atom.source : Atom → Text
  | .blanks => "\\s+".toList
  | .char c => if c ∈ metacharacters then ['\\', c] else [c]

def Pattern.source (pattern : Pattern) : Text := pattern.flatMap Atom.source

/-- The source text of an alternation, each pattern in a group of its own. -/
def alternationSource (patterns : List Pattern) : Text :=
  ['|'].intercalate (patterns.map fun pattern => "(?:".toList ++ pattern.source ++ [')'])

theorem alternationSource_cons_cons (first second : Pattern) (patterns : List Pattern) :
    alternationSource (first :: second :: patterns) =
      "(?:".toList ++ first.source ++ [')'] ++ ['|'] ++ alternationSource (second :: patterns) := by
  rw [alternationSource, List.map_cons, List.map_cons, List.intercalate_cons_cons]
  rfl

end BooleanSearch
