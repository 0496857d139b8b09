import BooleanSearch.Pattern.Source

/-!
# Reading expressions

The source text of an expression is read in two steps. First it is cut into lexemes: a backslash
makes the next character literal, `\s+` is a run of blanks, and an unescaped character with a
meaning of its own belongs to a group or is refused. Then groups and alternatives are put together;
groups may be nested to any depth.
-/

set_option autoImplicit false
set_option relaxedAutoImplicit false

namespace BooleanSearch

inductive Lexeme where
  | atom (atom : Atom)
  /-- What `(?:` stands for. -/
  | opening
  /-- What `)` stands for. -/
  | closing
  /-- What `|` stands for. -/
  | bar
  deriving DecidableEq

def lexemes? : Text → Option (List Lexeme)
  | [] => some []
  | '\\' :: 's' :: '+' :: text => (lexemes? text).map (.atom .blanks :: ·)
  | '\\' :: c :: text =>
    if c ∈ metacharacters then (lexemes? text).map (.atom (.char c) :: ·) else none
  | '(' :: '?' :: ':' :: text => (lexemes? text).map (.opening :: ·)
  | ')' :: text => (lexemes? text).map (.closing :: ·)
  | '|' :: text => (lexemes? text).map (.bar :: ·)
  | c :: text => if c ∈ metacharacters then none else (lexemes? text).map (.atom (.char c) :: ·)

/-- One member of a sequence: an atom, or a group of alternatives, each a sequence again. -/
inductive Expression where
  | atom (atom : Atom)
  | group (alternatives : List (List Expression))

namespace Expression

/-- Alternatives that are being read: those that a bar has ended, and the one after them. -/
structure Level where
  ended : List (List Expression) := []
  current : List Expression := []

namespace Level

def push (level : Level) (expression : Expression) : Level :=
  { level with current := level.current ++ [expression] }

def alternatives (level : Level) : List (List Expression) := level.ended ++ [level.current]

end Level

/-- The alternatives that the lexemes make up, read on a level inside these outer ones. -/
def ofLexemes? : List Level → Level → List Lexeme → Option (List (List Expression))
  | [], level, [] => some level.alternatives
  | _ :: _, _, [] => none
  | outer, level, .atom a :: lexemes => ofLexemes? outer (level.push (.atom a)) lexemes
  | outer, level, .bar :: lexemes => ofLexemes? outer { ended := level.alternatives } lexemes
  | outer, level, .opening :: lexemes => ofLexemes? (level :: outer) {} lexemes
  | [], _, .closing :: _ => none
  | last :: outer, level, .closing :: lexemes =>
    ofLexemes? outer (last.push (.group level.alternatives)) lexemes

def read? (text : Text) : Option (List (List Expression)) := (lexemes? text).bind (ofLexemes? [] {})

def ofPattern (pattern : Pattern) : List Expression := pattern.map .atom

end Expression

end BooleanSearch
