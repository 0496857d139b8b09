import BooleanSearch.Text.Basic

set_option autoImplicit false
set_option relaxedAutoImplicit false

namespace BooleanSearch

inductive Role where
  | title
  | rule
  | label
  | stage
  | operator
  | expression
  | note
  deriving DecidableEq

def Role.start : Role → Text
  | .title => "\x1b[1;36m".toList
  | .rule => "\x1b[90m".toList
  | .label | .note => "\x1b[2m".toList
  | .stage => "\x1b[34m".toList
  | .operator => "\x1b[33m".toList
  | .expression => "\x1b[32m".toList

def colorEnd : Text := "\x1b[0m".toList

/-- A part of a line, with its role if it has one. -/
structure Span where
  role : Option Role
  text : Text

namespace Span

def plain (text : Text) : Span := ⟨none, text⟩

def render (color : Bool) (span : Span) : Text :=
  match color, span.role with
  | true, some role => role.start ++ span.text ++ colorEnd
  | _, _ => span.text

end Span

def Role.span (role : Role) (text : Text) : Span := ⟨some role, text⟩

abbrev Line := List Span

def renderLines (color : Bool) (lines : List Line) : Text :=
  unlines (lines.map fun line => line.flatMap (Span.render color))

end BooleanSearch
