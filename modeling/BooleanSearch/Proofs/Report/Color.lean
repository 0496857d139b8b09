import BooleanSearch.CommandLine.Outcome
import BooleanSearch.Proofs.Condition.Compiled
import BooleanSearch.Proofs.Report.Escapes

set_option autoImplicit false
set_option relaxedAutoImplicit false

namespace BooleanSearch

private theorem escape_ne_of_mem_quotedChar {c d : Char} (h : d ∈ quotedChar c) : d ≠ '\x1b' := by
  have hdigit : ∀ digit, Nat.digitChar digit ≠ '\x1b' := fun _ => Nat.digitChar_ne _ (by decide)
  unfold quotedChar at h
  rintro rfl
  repeat' split at h
  · simp at h
  · simp at h
  · simp at h
  · simp at h
  · simp at h
  · simp at h
  · simp only [codePointEscape, List.mem_append, List.mem_cons, List.not_mem_nil, or_false,
      Char.reduceEq, false_or] at h
    obtain ⟨digit, hdigit'⟩ := exists_eq_digitChar_of_mem_toDigits h
    exact hdigit digit hdigit'.symm
  · rename_i hshown
    obtain rfl := List.mem_singleton.1 h
    exact absurd (by decide) hshown

private theorem isInert_quoted (text : Text) : IsInert (quoted text) := by
  refine isInert_of_not_mem fun h => ?_
  simp only [quoted, List.mem_cons, List.mem_append, List.mem_flatMap, List.not_mem_nil, or_false,
    Char.reduceEq, false_or] at h
  obtain ⟨c, -, hc⟩ := h
  exact escape_ne_of_mem_quotedChar hc rfl

private theorem isInert_name (op : Operator) : IsInert op.name := by
  cases op <;> exact isInert_of_not_mem (by decide)

private theorem Run.isInert_describe (run : Run) : IsInert run.describe := by
  have htag : IsInert (run.tag.elim ['-'] Operator.name) := by
    cases run.tag with
    | none => exact isInert_of_not_mem (by decide)
    | some op => exact isInert_name op
  have hterms : IsInert ([',', ' '].intercalate (run.terms.map quoted)) := by
    refine isInert_intercalate (isInert_of_not_mem (by decide)) fun text htext => ?_
    obtain ⟨term, -, rfl⟩ := List.mem_map.1 htext
    exact isInert_quoted term
  exact ((htag.append (isInert_of_not_mem (by decide))).append hterms).append
    (isInert_of_not_mem (by decide))

private theorem Pattern.exists_source_append_eq_cons (pattern : Pattern) {c : Char} (hc : c ≠ '[')
    (rest : Text) :
    ∃ d text, pattern.source ++ c :: rest = d :: text ∧ d ≠ '[' := by
  cases pattern with
  | nil => exact ⟨c, rest, rfl, hc⟩
  | cons atom pattern =>
    cases atom with
    | blanks => exact ⟨'\\', _, rfl, by decide⟩
    | char d =>
      rw [Pattern.source, List.flatMap_cons]
      by_cases hd : d ∈ metacharacters
      · rw [Atom.source, if_pos hd]
        exact ⟨'\\', _, rfl, by decide⟩
      · rw [Atom.source, if_neg hd]
        refine ⟨d, _, rfl, ?_⟩
        rintro rfl
        exact hd (by decide)

/-- A pattern is inert where a character other than a bracket follows it: in the pattern, too, an
escape character comes before such a character. -/
theorem Pattern.isInert_source_append (pattern : Pattern) {c : Char} (hc : c ≠ '[') {rest : Text}
    (hrest : IsInert (c :: rest)) : IsInert (pattern.source ++ c :: rest) := by
  induction pattern with
  | nil => exact hrest
  | cons atom pattern ih =>
    obtain ⟨d, text, hnext, hd⟩ := Pattern.exists_source_append_eq_cons pattern hc rest
    rw [Pattern.source] at ih hnext ⊢
    rw [List.flatMap_cons, List.append_assoc]
    rw [hnext] at ih ⊢
    cases atom with
    | blanks => exact (isInert_of_not_mem (by decide)).append ih
    | char e =>
      by_cases he : e ∈ metacharacters
      · rw [Atom.source, if_pos he]
        refine IsInert.append (isInert_of_not_mem ?_) ih
        intro hmem
        simp only [List.mem_cons, Char.reduceEq, List.not_mem_nil, or_false, false_or] at hmem
        rw [← hmem] at he
        exact absurd he (by decide)
      · rw [Atom.source, if_neg he]
        exact ⟨fun _ => ⟨d, rfl, hd⟩, ih⟩

private theorem isInert_alternationSource (patterns : List Pattern) :
    IsInert (alternationSource patterns) := by
  refine isInert_intercalate (isInert_of_not_mem (by decide)) fun text htext => ?_
  obtain ⟨pattern, -, rfl⟩ := List.mem_map.1 htext
  rw [List.append_assoc]
  exact (isInert_of_not_mem (by decide)).append
    (pattern.isInert_source_append (by decide) (isInert_of_not_mem (by decide)))

def IsInertLine (line : Line) : Prop := ∀ span ∈ line, IsInert span.text

def AreInert (lines : List Line) : Prop := ∀ line ∈ lines, IsInertLine line

section Lines

variable {span : Span} {line : Line} {lines others : List Line}

private theorem isInertLine_cons : IsInertLine
    (span :: line) ↔ IsInert span.text ∧ IsInertLine line :=
  List.forall_mem_cons

private theorem isInertLine_nil : IsInertLine [] := List.forall_mem_nil _

private theorem isInertLine_singleton : IsInertLine [span] ↔ IsInert span.text :=
  List.forall_mem_singleton

private theorem isInertLine_pair {next : Span} :
    IsInertLine [span, next] ↔ IsInert span.text ∧ IsInert next.text := by
  rw [isInertLine_cons, isInertLine_singleton]

private theorem areInert_append : AreInert (lines ++ others) ↔ AreInert lines ∧ AreInert others :=
  List.forall_mem_append

private theorem areInert_cons : AreInert (line :: lines) ↔ IsInertLine line ∧ AreInert lines :=
  List.forall_mem_cons

private theorem areInert_nil : AreInert [] := List.forall_mem_nil _

private theorem Role.isEscapeSequence_start (role : Role) : IsEscapeSequence role.start := by
  cases role with
  | title => exact ⟨"1;36".toList, by decide, rfl⟩
  | rule => exact ⟨"90".toList, by decide, rfl⟩
  | label => exact ⟨"2".toList, by decide, rfl⟩
  | stage => exact ⟨"34".toList, by decide, rfl⟩
  | operator => exact ⟨"33".toList, by decide, rfl⟩
  | expression => exact ⟨"32".toList, by decide, rfl⟩
  | note => exact ⟨"2".toList, by decide, rfl⟩

private theorem isEscapeSequence_colorEnd : IsEscapeSequence colorEnd := ⟨['0'], by decide, rfl⟩

private theorem Span.render_false (span : Span) : span.render false = span.text := rfl

private theorem Span.deleteEscapes_render_append {span : Span} (h : IsInert span.text)
    (after : Text) :
    deleteEscapes (span.render true ++ after) = span.text ++ deleteEscapes after := by
  obtain ⟨role, text⟩ := span
  cases role with
  | none => exact h.deleteEscapes_append after
  | some role =>
    change deleteEscapes (role.start ++ text ++ colorEnd ++ after) = _
    rw [List.append_assoc, List.append_assoc,
      deleteEscapes_sequence_append role.isEscapeSequence_start, h.deleteEscapes_append,
      deleteEscapes_sequence_append isEscapeSequence_colorEnd]

private theorem deleteEscapes_line_append (h : IsInertLine line) (after : Text) :
    deleteEscapes (line.flatMap (Span.render true) ++ after) =
      line.flatMap (Span.render false) ++ deleteEscapes after := by
  induction line with
  | nil => rfl
  | cons span line ih =>
    rw [isInertLine_cons] at h
    rw [List.flatMap_cons, List.append_assoc, Span.deleteEscapes_render_append h.1, ih h.2,
      List.flatMap_cons, List.append_assoc, Span.render_false]

private theorem deleteEscapes_renderLines (h : AreInert lines) :
    deleteEscapes (renderLines true lines) = renderLines false lines := by
  have hnewline : IsInert ['\n'] := isInert_of_not_mem (by decide)
  induction lines with
  | nil => rw [renderLines, renderLines]; exact deleteEscapes.eq_1
  | cons line lines ih =>
    obtain ⟨hline, hlines⟩ := areInert_cons.1 h
    rw [renderLines, unlines] at ih ⊢
    rw [List.map_cons, List.flatMap_cons, List.append_assoc, deleteEscapes_line_append hline,
      hnewline.deleteEscapes_append, ih hlines, ← List.append_assoc]
    rfl

private theorem isInert_renderLines (h : AreInert lines) : IsInert (renderLines false lines) := by
  refine isInert_flatMap fun text htext => ?_
  obtain ⟨line, hline, rfl⟩ := List.mem_map.1 htext
  exact (isInert_flatMap (h line hline)).append (isInert_of_not_mem (by decide))

end Lines

private theorem areInert_map {α : Type} {f : α → Line} {l : List α}
    (h : ∀ a ∈ l, IsInertLine (f a)) :
    AreInert (l.map f) := by
  intro line hline
  obtain ⟨a, ha, rfl⟩ := List.mem_map.1 hline
  exact h a ha

private theorem isInertLine_sectionHeading {name : Text} (h : IsInert name) :
    IsInertLine (sectionHeading name) := by
  refine isInertLine_singleton.2 ?_
  exact ((isInert_of_not_mem (by decide)).append h).append (isInert_of_not_mem (by decide))

private theorem isInert_indent (depth : Nat) : IsInert (indent depth).text := by
  refine isInert_of_not_mem fun h => ?_
  exact absurd (List.eq_of_mem_replicate h) (by decide)

private theorem isInert_termSpan (term : Text) : IsInert (termSpan term).text := by
  rw [termSpan]
  split
  · exact isInert_of_not_mem (by decide)
  · exact isInert_quoted term

private theorem isInertLine_loneTermLine (term : Text) : IsInertLine (loneTermLine term) := by
  rw [loneTermLine, isInertLine_cons, isInertLine_cons, isInertLine_pair]
  exact ⟨isInert_indent 1, isInert_of_not_mem (by decide), isInert_of_not_mem (by decide),
    isInert_termSpan term⟩

private theorem isInertLine_operatorLine (depth : Nat) (op : Operator) :
    IsInertLine (operatorLine depth op) :=
  isInertLine_pair.2 ⟨isInert_indent depth, isInert_name op⟩

private theorem isInert_segmentSpan (piece : Piece Text) : IsInert (segmentSpan piece).text := by
  cases piece with
  | operand term => exact isInert_termSpan term
  | operator op => exact isInert_name op

private theorem isInertLine_intersperse {separator : Span} {spans : List Span}
    (hseparator : IsInert separator.text) (h : IsInertLine spans) :
    IsInertLine (spans.intersperse separator) := by
  induction spans with
  | nil => exact h
  | cons span spans ih =>
    cases spans with
    | nil => exact h
    | cons next spans =>
      rw [isInertLine_cons] at h
      rw [List.intersperse_cons_cons, isInertLine_cons, isInertLine_cons]
      exact ⟨h.1, hseparator, ih h.2⟩

private theorem Segments.isInertLine_reportLine (segments : Segments) :
    IsInertLine segments.reportLine := by
  cases segments with
  | lone term => exact isInertLine_loneTermLine term
  | joined pieces =>
    refine isInertLine_cons.2 ⟨isInert_indent 1, isInertLine_intersperse ?_ fun span hspan => ?_⟩
    · exact isInert_of_not_mem (by decide)
    · obtain ⟨piece, -, rfl⟩ := List.mem_map.1 hspan
      exact isInert_segmentSpan piece

private theorem Run.isInertLine_reportLine (run : Run) : IsInertLine run.reportLine :=
  isInertLine_pair.2 ⟨isInert_indent 1, run.isInert_describe⟩

private theorem Grouping.areInert_reportLines (grouping : Grouping) :
    AreInert grouping.reportLines := by
  cases grouping with
  | lone term => exact areInert_cons.2 ⟨isInertLine_loneTermLine term, areInert_nil⟩
  | single run => exact areInert_cons.2 ⟨run.isInertLine_reportLine, areInert_nil⟩
  | mixed pieces =>
    refine areInert_map fun piece _ => ?_
    cases piece with
    | operand run => exact run.isInertLine_reportLine
    | operator op => exact isInertLine_operatorLine 1 op

namespace Condition

private theorem isInert_describe_term (mode : CaseMode) (pattern : Pattern) :
    IsInert (term mode pattern).describe := by
  rw [describe_term, List.append_assoc]
  exact (isInert_of_not_mem (by decide)).append
    (pattern.isInert_source_append (by decide) (isInert_of_not_mem (by decide)))

private theorem isInert_describe_anyOf (mode : CaseMode) (patterns : List Pattern) :
    IsInert (anyOf mode patterns).describe := by
  rw [describe_anyOf]
  exact ((isInert_of_not_mem (by decide)).append (isInert_alternationSource patterns)).append
    (isInert_of_not_mem (by decide))

private theorem isInert_describe_allOf (mode : CaseMode) (patterns : List Pattern) :
    IsInert (allOf mode patterns).describe := by
  rw [describe_allOf]
  refine ((isInert_of_not_mem (by decide)).append ?_).append (isInert_of_not_mem (by decide))
  refine isInert_intercalate (isInert_of_not_mem (by decide)) fun text htext => ?_
  obtain ⟨pattern, -, rfl⟩ := List.mem_map.1 htext
  rw [List.append_assoc]
  exact (isInert_of_not_mem (by decide)).append
    (pattern.isInert_source_append (by decide) (isInert_of_not_mem (by decide)))

private theorem areInert_expressionLine (depth : Nat) {text : Text} (h : IsInert text) :
    AreInert [[indent depth, Role.expression.span text]] := by
  rw [areInert_cons, isInertLine_pair]
  exact ⟨⟨isInert_indent depth, h⟩, areInert_nil⟩

mutual

private theorem areInert_reportLines (depth : Nat) :
    (condition : Condition) → AreInert (condition.reportLines depth)
  | .term mode pattern => areInert_expressionLine depth (isInert_describe_term mode pattern)
  | .anyOf mode patterns => areInert_expressionLine depth (isInert_describe_anyOf mode patterns)
  | .allOf mode patterns => areInert_expressionLine depth (isInert_describe_allOf mode patterns)
  | .sequence pieces => by
    have htitle : IsInert (Role.stage.span "Sequence (scored)".toList).text :=
      isInert_of_not_mem (by decide)
    exact areInert_cons.2 ⟨isInertLine_pair.2 ⟨isInert_indent depth, htitle⟩,
      areInert_pieceReportLines (depth + 1) pieces⟩

theorem areInert_pieceReportLines (depth : Nat) :
    (pieces : List (Piece Condition)) → AreInert (pieceReportLines depth pieces)
  | [] => areInert_nil
  | .operand condition :: pieces =>
    areInert_append.2 ⟨areInert_reportLines depth condition, areInert_pieceReportLines depth pieces⟩
  | .operator op :: pieces =>
    areInert_cons.2 ⟨isInertLine_operatorLine depth op, areInert_pieceReportLines depth pieces⟩

end

end Condition

section Whole

variable {line : Line} {lines : List Line}

private theorem areInert_empty_cons : AreInert ([] :: lines) ↔ AreInert lines := by
  rw [areInert_cons, and_iff_right isInertLine_nil]

private theorem areInert_singleton : AreInert [line] ↔ IsInertLine line := by
  rw [areInert_cons, and_iff_left areInert_nil]

private theorem Stages.areInert_reportLines (stages : Stages) : AreInert stages.reportLines := by
  have hsegments : AreInert [[], sectionHeading "Cut".toList, stages.segments.reportLine] := by
    rw [areInert_empty_cons, areInert_cons, areInert_singleton]
    exact ⟨isInertLine_sectionHeading (isInert_of_not_mem (by decide)),
      stages.segments.isInertLine_reportLine⟩
  have hgroups : AreInert [[], sectionHeading "Groups".toList] := by
    rw [areInert_empty_cons, areInert_singleton]
    exact isInertLine_sectionHeading (isInert_of_not_mem (by decide))
  have hcompiled : AreInert [[], sectionHeading "Compiled".toList] := by
    rw [areInert_empty_cons, areInert_singleton]
    exact isInertLine_sectionHeading (isInert_of_not_mem (by decide))
  have hlast : AreInert [[]] := areInert_singleton.2 isInertLine_nil
  rw [reportLines]
  simp only [areInert_append]
  exact ⟨⟨⟨⟨⟨hsegments, hgroups⟩, stages.grouping.areInert_reportLines⟩, hcompiled⟩,
    stages.condition.areInert_reportLines 1⟩, hlast⟩

namespace Explanation

variable (explanation : Explanation)

private theorem areInert_headerLines : AreInert explanation.headerLines := by
  have htitle : IsInert ("⚙  Query: ".toList ++ quoted explanation.query) :=
    (isInert_of_not_mem (by decide)).append (isInert_quoted _)
  have hlabel : ∀ text : Text, '\x1b' ∉ text → IsInert (Role.label.span text).text :=
    fun text h => isInert_of_not_mem h
  have hvalue : ∀ text, IsInert text → IsInert (Span.plain (' ' :: text)).text :=
    fun text h => ⟨fun heq => absurd heq (by decide), h⟩
  rw [headerLines, areInert_empty_cons, areInert_cons, areInert_singleton]
  refine ⟨isInertLine_singleton.2 htitle, ?_⟩
  iterate 9 rw [isInertLine_cons]
  exact ⟨isInert_indent 1, hlabel _ (by decide), hvalue _ (isInert_quoted _), isInert_indent 1,
    hlabel _ (by decide), hvalue _ (isInert_quoted _), isInert_indent 1, hlabel _ (by decide),
    hvalue _ (by cases explanation.caseMode <;> exact isInert_of_not_mem (by decide)),
    isInertLine_nil⟩

private theorem areInert_reportLines : AreInert explanation.reportLines := by
  refine areInert_append.2 ⟨explanation.areInert_headerLines, ?_⟩
  cases explanation.stages with
  | none =>
    have hnote : IsInert (Role.note.span "Empty query: every candidate matches".toList).text :=
      isInert_of_not_mem (by decide)
    rw [areInert_empty_cons, areInert_cons, areInert_singleton]
    exact ⟨isInertLine_pair.2 ⟨isInert_indent 1, hnote⟩, isInertLine_nil⟩
  | some stages => exact stages.areInert_reportLines

end Explanation

end Whole

namespace Searcher

/-- Where a query is explained, the report with color is the one without color once its escape
sequences are deleted, and the one without color has none, whatever the query and the tokens
hold. -/
theorem deleteEscapes_report [Engine] (searcher : Searcher) (query : Text)
    (explanation : Explanation) (h : searcher.explain query = .ok explanation) :
    deleteEscapes (explainQuery searcher query true).output =
        (explainQuery searcher query false).output ∧
      ∀ sequence, IsEscapeSequence sequence →
        ¬ sequence <:+: (explainQuery searcher query false).output := by
  have houtput : ∀ color, (explainQuery searcher query color).output =
      renderLines color explanation.reportLines := by
    intro color
    rw [explainQuery, h]
  rw [houtput, houtput]
  exact ⟨deleteEscapes_renderLines explanation.areInert_reportLines, fun _ hsequence =>
    (isInert_renderLines explanation.areInert_reportLines).not_isInfix hsequence⟩

/-- A query that is a change of color itself: its pattern is printed with the escape character, but
with a backslash before the bracket. -/
theorem deleteEscapes_report_of_escape :
    let searcher : Searcher := {}
    let query := "\x1b[31m && c".toList
    ∃ explanation, searcher.explain query = .ok explanation ∧
      "\x1b\\[31m".toList <:+: (explainQuery searcher query false).output ∧
      (explainQuery searcher query true).output ≠ (explainQuery searcher query false).output ∧
      deleteEscapes (explainQuery searcher query true).output =
        (explainQuery searcher query false).output ∧
      ∀ sequence, IsEscapeSequence sequence →
        ¬ sequence <:+: (explainQuery searcher query false).output := by
  intro searcher query
  obtain ⟨explanation, hexplain⟩ : ∃ explanation, searcher.explain query = .ok explanation := by
    apply exists_eq_ok_of_isOk
    decide +kernel
  obtain ⟨hdelete, hnone⟩ := deleteEscapes_report searcher query explanation hexplain
  refine ⟨explanation, hexplain, ?_, ?_, hdelete, hnone⟩
  · decide +kernel
  · decide +kernel

end Searcher

end BooleanSearch
