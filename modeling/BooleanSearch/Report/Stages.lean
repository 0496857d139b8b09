import BooleanSearch.Report.Span
import BooleanSearch.Searcher.Explanation

/-!
# The report on a query

An explanation is reported in sections: the query with the options that matter to it, its segments,
its runs, and its condition. An empty query has a note in place of the last three.
-/

set_option autoImplicit false
set_option relaxedAutoImplicit false

namespace BooleanSearch

def sectionHeading (name : Text) : Line :=
  [Role.rule.span ("━━━ ".toList ++ name ++ " ━━━".toList)]

/-- Spaces before the text of a line, two for each level. -/
def indent (depth : Nat) : Span := .plain (List.replicate (2 * depth) ' ')

/-- A term in a report; the empty one is remarked on. -/
def termSpan (term : Text) : Span :=
  if term = [] then Role.note.span "\"\" (always matches)".toList else .plain (quoted term)

def loneTermLine (term : Text) : Line :=
  [indent 1, Role.stage.span "term".toList, .plain [' '], termSpan term]

def operatorLine (depth : Nat) (op : Operator) : Line :=
  [indent depth, Role.operator.span op.name]

def segmentSpan : Piece Text → Span
  | .operand term => termSpan term
  | .operator op => Role.operator.span op.name

def Segments.reportLine : Segments → Line
  | .lone term => loneTermLine term
  | .joined pieces => indent 1 :: (pieces.map segmentSpan).intersperse (.plain [' '])

def Run.reportLine (run : Run) : Line := [indent 1, Role.expression.span run.describe]

def Grouping.reportLines : Grouping → List Line
  | .lone term => [loneTermLine term]
  | .single run => [run.reportLine]
  | .mixed pieces =>
    pieces.map fun
      | .operand run => run.reportLine
      | .operator op => operatorLine 1 op

mutual

/-- A condition in a report; the entries of a sequence stand one level deeper. -/
def Condition.reportLines (depth : Nat) : Condition → List Line
  | .sequence pieces =>
    [indent depth, Role.stage.span "Sequence (scored)".toList] ::
      Condition.pieceReportLines (depth + 1) pieces
  | condition => [[indent depth, Role.expression.span condition.describe]]

def Condition.pieceReportLines (depth : Nat) : List (Piece Condition) → List Line
  | [] => []
  | .operand condition :: pieces =>
    Condition.reportLines depth condition ++ Condition.pieceReportLines depth pieces
  | .operator op :: pieces => operatorLine depth op :: Condition.pieceReportLines depth pieces

end

def Stages.reportLines (stages : Stages) : List Line :=
  [[], sectionHeading "Cut".toList, stages.segments.reportLine] ++
    [[], sectionHeading "Groups".toList] ++ stages.grouping.reportLines ++
    [[], sectionHeading "Compiled".toList] ++ stages.condition.reportLines 1 ++ [[]]

def Explanation.headerLines (explanation : Explanation) : List Line :=
  [[],
    [Role.title.span ("⚙  Query: ".toList ++ quoted explanation.query)],
    [indent 1, Role.label.span "and:".toList, .plain (' ' :: quoted explanation.tokens.and),
      indent 1, Role.label.span "or:".toList, .plain (' ' :: quoted explanation.tokens.or),
      indent 1, Role.label.span "case:".toList,
      .plain (' ' :: match explanation.caseMode with
        | .sensitive => "sensitive".toList
        | .insensitive => "insensitive".toList)]]

def Explanation.reportLines (explanation : Explanation) : List Line :=
  explanation.headerLines ++
    match explanation.stages with
    | none => [[], [indent 1, Role.note.span "Empty query: every candidate matches".toList], []]
    | some stages => stages.reportLines

end BooleanSearch
