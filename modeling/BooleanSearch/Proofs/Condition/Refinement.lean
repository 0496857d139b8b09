import BooleanSearch.Condition.Estimate
import BooleanSearch.Proofs.Condition.Compiled
import Mathlib.Data.Bool.Basic

/-!
# Refining a query

A term added at the end of a query is taken into the last run or opens a run behind a new operator.
Joined by AND it makes the last run harder to hold or asks for the one vote that it can bring;
joined by OR it makes the last run easier to hold or asks for nothing. So a term joined by AND
never adds a match and a term joined by OR never removes one, also where the votes are not a
Boolean reading of the query.
-/

set_option autoImplicit false
set_option relaxedAutoImplicit false

namespace BooleanSearch

namespace Run

variable {holds : Text → Bool} {run : Run}

private theorem verdict_of_append_and (htag : run.tag = none ∨ run.tag = some .and)
    (hterms : run.terms ≠ []) {term : Text}
    (h : (Run.mk (some .and) (run.terms ++ [term])).verdict holds) : run.verdict holds := by
  obtain ⟨tag, terms⟩ := run
  have hall : ∀ t ∈ terms, holds t := by
    intro t ht
    exact List.all_eq_true.1 h t (List.mem_append_left _ ht)
  rcases htag with rfl | rfl
  · obtain ⟨t, ht⟩ := List.exists_mem_of_ne_nil terms hterms
    exact List.any_eq_true.2 ⟨t, ht, hall t ht⟩
  · exact List.all_eq_true.2 hall

private theorem verdict_append_or (htag : run.tag = none ∨ run.tag = some .or)
    (h : run.verdict holds)
    (term : Text) : (Run.mk (some .or) (run.terms ++ [term])).verdict holds := by
  obtain ⟨tag, terms⟩ := run
  have hany : terms.any holds := by rcases htag with rfl | rfl <;> exact h
  obtain ⟨t, ht, hholds⟩ := List.any_eq_true.1 hany
  exact List.any_eq_true.2 ⟨t, List.mem_append_left _ ht, hholds⟩

end Run

namespace Chain

/-- One more term behind a chain of runs: the last run takes it, unless its tag is not the operator
that joins the term. -/
def extendRuns (op : Operator) (term : Text) : Chain Run → Chain Run
  | .last run =>
    if run.tag = none ∨ run.tag = some op then .last ⟨some op, run.terms ++ [term]⟩
    else .link run op (.last ⟨none, [term]⟩)
  | .link run op' rest => .link run op' (rest.extendRuns op term)

private theorem runsFrom_append_last (op : Operator) (term : Text) (chain : Chain Text)
    (tag : Option Operator) (terms : List Text) :
    (chain.append op (.last term)).runsFrom
        (tag.or (chain.append op (.last term)).firstOperator?) terms =
      (chain.runsFrom (tag.or chain.firstOperator?) terms).extendRuns op term := by
  -- Only for a chain of one term the added operator is the first one; other tags are found as
  -- before.
  induction chain generalizing tag terms with
  | last value =>
    rcases tag with - | tag
    · simp [append, runsFrom, firstOperator?, extendRuns]
    · by_cases h : tag = op <;> simp [append, runsFrom, firstOperator?, extendRuns, h]
  | link value op' rest ih =>
    have htag : ∃ tag', tag.or (some op') = some tag' := by cases tag <;> exact ⟨_, rfl⟩
    obtain ⟨tag', htag'⟩ := htag
    have hjoined := ih (some tag') (terms ++ [value])
    have hclosed := ih none []
    rw [Option.some_or, Option.some_or] at hjoined
    rw [Option.none_or, Option.none_or] at hclosed
    have hfirst : ∀ next, tag.or (link value op' next).firstOperator? = some tag' := fun _ => htag'
    rw [append, hfirst, hfirst, runsFrom, runsFrom]
    split
    · exact hjoined
    · rw [hclosed, extendRuns]

private theorem runs_append_last (op : Operator) (term : Text) (chain : Chain Text) :
    (chain.append op (.last term)).runs = chain.runs.extendRuns op term := by
  have h := runsFrom_append_last op term chain none []
  rwa [Option.none_or, Option.none_or] at h

/-- The first verdicts have no more votes to spare than the second ones. -/
def SparesNoMore (few many : Chain Bool) : Prop :=
  (operands few.pieces).count true + (operators many.pieces).count .and ≤
    (operands many.pieces).count true + (operators few.pieces).count .and

instance (few many : Chain Bool) : Decidable (SparesNoMore few many) :=
  inferInstanceAs (Decidable (_ ≤ _))

namespace SparesNoMore

variable {few many : Chain Bool}

private theorem enoughVotes (h : SparesNoMore few many) (hfew : enoughVotes few.pieces) :
    enoughVotes many.pieces := by
  rw [enoughVotes_pieces, decide_eq_true_iff] at hfew ⊢
  rw [SparesNoMore] at h
  omega

private theorem last {a b : Bool} (h : a → b) : SparesNoMore (.last a) (.last b) := by
  have hle := Bool.toNat_le_toNat (Bool.le_iff_imp.2 h)
  simpa [SparesNoMore, count_true_cons] using hle

private theorem link (h : SparesNoMore few many) (verdict : Bool) (op : Operator) :
    SparesNoMore (.link verdict op few) (.link verdict op many) := by
  simp only [SparesNoMore, operands_pieces_link, operators_pieces_link, count_true_cons,
    count_and_cons] at h ⊢
  omega

private theorem link_and_last (verdict added : Bool) :
    SparesNoMore (.link verdict .and (.last added)) (.last verdict) := by
  cases verdict <;> cases added <;> decide

private theorem last_link_or (verdict added : Bool) :
    SparesNoMore (.last verdict) (.link verdict .or (.last added)) := by
  cases verdict <;> cases added <;> decide

end SparesNoMore

variable (holds : Text → Bool) (term : Text) {runs : Chain Run}

private theorem sparesNoMore_extendRuns_and (h : ∀ run ∈ operands runs.pieces, run.terms ≠ []) :
    SparesNoMore ((runs.extendRuns .and term).map (Run.verdict holds))
      (runs.map (Run.verdict holds)) := by
  induction runs with
  | last run =>
    rw [extendRuns]
    split
    · rename_i htag
      exact .last (Run.verdict_of_append_and htag (h run (by simp)))
    · exact .link_and_last _ _
  | link run op rest ih =>
    rw [operands_pieces_link, List.forall_mem_cons] at h
    exact (ih h.2).link _ op

private theorem sparesNoMore_extendRuns_or :
    SparesNoMore (runs.map (Run.verdict holds))
      ((runs.extendRuns .or term).map (Run.verdict holds)) := by
  induction runs with
  | last run =>
    rw [extendRuns]
    split
    · rename_i htag
      exact .last fun hrun => Run.verdict_append_or htag hrun term
    · exact .last_link_or _ _
  | link run op rest ih => exact ih.link _ op

end Chain

namespace Options

/-- What holds with one more term joined by AND holds without it, and what holds does so with one
more term joined by OR. -/
theorem holds_append_term [Engine] {options : Options} {chain : Chain Text} {op : Operator}
    {term : Text} {condition extended : Condition}
    (hcondition : options.condition (.ofSegments (.ofChain chain)) = .ok condition)
    (hextended : options.condition
      (.ofSegments (.joined (chain.pieces ++ [.operator op, .operand term]))) = .ok extended)
    (candidate : Text) :
    (op = .and → extended.holds candidate → condition.holds candidate) ∧
      (op = .or → condition.holds candidate → extended.holds candidate) := by
  have hpieces : Segments.joined (chain.pieces ++ [.operator op, .operand term]) =
      .ofChain (chain.append op (.last term)) := by
    have happend := Chain.pieces_append op chain (.last term)
    rw [Chain.pieces] at happend
    cases chain <;> rw [← happend] <;> rfl
  rw [hpieces] at hextended
  rw [holds_of_condition hcondition, holds_of_condition hextended, Chain.runs_append_last]
  constructor
  · rintro rfl
    exact (Chain.sparesNoMore_extendRuns_and _ term
      fun _ => Chain.terms_ne_nil_of_mem_runsFrom).enoughVotes
  · rintro rfl
    exact (Chain.sparesNoMore_extendRuns_or _ term).enoughVotes

theorem holds_append_e_of_two_votes :
    let chain : Chain Text :=
      .link ['a'] .and (.link ['b'] .or (.link ['c'] .or (.last ['d'])))
    let longer := chain.pieces ++ [.operator .and, .operand ['e']]
    ∃ condition extended,
      ({} : Options).condition (.ofSegments (.ofChain chain)) = .ok condition ∧
        ({} : Options).condition (.ofSegments (.joined longer)) = .ok extended ∧
        extended.holds "a b c".toList ∧ condition.holds "a b c".toList := by
  intro chain longer
  let condition : Condition := .sequence
    [.operand (.allOf .insensitive [.ofTerm ['a'], .ofTerm ['b']]), .operator .or,
      .operand (.anyOf .insensitive [.ofTerm ['c'], .ofTerm ['d']])]
  let extended : Condition := .sequence
    [.operand (.allOf .insensitive [.ofTerm ['a'], .ofTerm ['b']]), .operator .or,
      .operand (.anyOf .insensitive [.ofTerm ['c'], .ofTerm ['d']]), .operator .and,
      .operand (.term .insensitive (.ofTerm ['e']))]
  have hcondition : ({} : Options).condition (.ofSegments (.ofChain chain)) = .ok condition := rfl
  have hextended : ({} : Options).condition (.ofSegments (.joined longer)) = .ok extended := rfl
  have hholds : extended.holds "a b c".toList := by decide
  have hrefine := holds_append_term hcondition hextended "a b c".toList
  exact ⟨condition, extended, hcondition, hextended, hholds, hrefine.1 rfl hholds⟩

end Options

end BooleanSearch
