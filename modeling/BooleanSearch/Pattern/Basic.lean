import BooleanSearch.Text.Blank
import BooleanSearch.Text.CaseFold

/-!
# Patterns

The pattern of a term asks for its characters in order, except that each blank of the term stands
for one or more blanks, whichever they are. A pattern occurs in a text if some part of the text
matches it from end to end; two blanks of a term need two parts of the text's blanks, so a blank
that another blank follows takes one blank only and leaves the choice to the last of them.
-/

set_option autoImplicit false
set_option relaxedAutoImplicit false

namespace BooleanSearch

inductive Atom where
  /-- One or more blanks. -/
  | blanks
  /-- This character. -/
  | char (c : Char)
  deriving DecidableEq

def Atom.ofChar (c : Char) : Atom := if isBlank c then .blanks else .char c

def Atom.map (f : Char → Char) : Atom → Atom
  | .blanks => .blanks
  | .char c => .char (f c)

/-- A pattern asks for its atoms one after the other. -/
abbrev Pattern := List Atom

def Pattern.ofTerm (term : Text) : Pattern := term.map Atom.ofChar

def Pattern.matchesStart : Pattern → Text → Bool
  | [], _ => true
  | _ :: _, [] => false
  | .char a :: atoms, c :: text => a == c && matchesStart atoms text
  | .blanks :: .blanks :: atoms, c :: text => isBlank c && matchesStart (.blanks :: atoms) text
  | .blanks :: atoms, c :: text =>
    isBlank c && (matchesStart atoms text || matchesStart (.blanks :: atoms) text)

def anywhere (test : Text → Bool) : Text → Bool
  | [] => test []
  | c :: text => test (c :: text) || anywhere test text

/-- Whether the pattern matches some part of the text, comparing characters as the mode says. -/
def Pattern.occursIn (mode : CaseMode) (pattern : Pattern) (text : Text) : Bool :=
  anywhere (Pattern.matchesStart (pattern.map (Atom.map mode.key))) (text.map mode.key)

end BooleanSearch
