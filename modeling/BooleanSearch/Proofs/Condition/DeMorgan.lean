import BooleanSearch.Condition.Estimate
import BooleanSearch.Proofs.Condition.Compiled
import BooleanSearch.Proofs.Query.Exchange
import BooleanSearch.Proofs.Query.Leftmost
import BooleanSearch.Proofs.Query.RegularGrouping
import Mathlib.Data.Bool.Count
import Mathlib.Data.List.Count

set_option autoImplicit false
set_option relaxedAutoImplicit false

namespace BooleanSearch

namespace Operator

private theorem join_dual_not (op : Operator) (a b : Bool) : op.dual.join (!a)
    (!b) = !op.join a b := by
  cases op
  · exact (Bool.not_and a b).symm
  · exact (Bool.not_or a b).symm

private theorem joinAll_dual_map_not (op : Operator) (verdicts : List Bool) :
    op.dual.joinAll (verdicts.map not) = !op.joinAll verdicts := by
  induction verdicts with
  | nil => cases op <;> rfl
  | cons verdict verdicts ih =>
    rw [List.map_cons, joinAll_cons, joinAll_cons, ih, join_dual_not]

end Operator

private theorem count_and_map_dual_add (ops : List Operator) :
    (ops.map Operator.dual).count .and + ops.count .and = ops.length := by
  induction ops with
  | nil => rfl
  | cons op ops ih =>
    rw [List.map_cons, count_and_cons, count_and_cons, List.length_cons]
    cases op <;> simp [Operator.dual] <;> omega

private theorem count_true_map_not_add (verdicts : List Bool) :
    (verdicts.map not).count true + verdicts.count true = verdicts.length := by
  have hcount : (verdicts.map not).count true = verdicts.count false :=
    List.count_map_of_injective verdicts not Bool.involutive_not.injective false
  rw [hcount, List.count_false_add_count_true]

/-- Of `n` verdicts `k + 1` are true exactly if fewer than `n - k` are false. -/
theorem Chain.enoughVotes_dual_map_not (verdicts : Chain Bool) :
    enoughVotes (verdicts.map not).dual.pieces = !enoughVotes verdicts.pieces := by
  have hlength := length_operands_pieces verdicts
  have hands := count_and_map_dual_add (operators verdicts.pieces)
  have htrue := count_true_map_not_add (operands verdicts.pieces)
  rw [enoughVotes_pieces, enoughVotes_pieces, operators_pieces_dual, operands_pieces_dual,
    operators_pieces_map, operands_pieces_map, Bool.eq_iff_iff, Bool.not_eq_true',
    decide_eq_true_iff, decide_eq_false_iff_not]
  omega

private theorem Run.verdict_dual {holds other : Text → Bool} {run : Run}
    (hrun : run.tag.isSome ∨ run.terms.length = 1)
    (h : ∀ term ∈ run.terms, other term = !holds term) :
    run.dual.verdict other = !run.verdict holds := by
  obtain ⟨tag, terms⟩ := run
  rcases tag with - | op
  · -- Only a run of one term has no tag; on more terms its verdict would not be the opposite one.
    obtain ⟨term, rfl⟩ : ∃ term, terms = [term] :=
      List.length_eq_one_iff.1 (hrun.resolve_left Bool.false_ne_true)
    rw [dual, verdict_singleton, verdict_singleton, h term (by simp)]
  · have hterms : terms.map other = (terms.map holds).map not := by
      rw [List.map_map]
      exact List.map_congr_left h
    change (Run.mk (some op.dual) terms).verdict other = _
    rw [verdict_some, verdict_some, hterms, Operator.joinAll_dual_map_not]

private theorem Chain.enoughVotes_runs_dual {holds other : Text → Bool} {chain : Chain Text}
    (h : ∀ term ∈ operands chain.pieces, other term = !holds term) :
    enoughVotes (chain.dual.runs.map (Run.verdict other)).pieces =
      !enoughVotes (chain.runs.map (Run.verdict holds)).pieces := by
  have hverdict : ∀ run ∈ operands chain.runs.pieces,
      run.dual.verdict other = !run.verdict holds := by
    intro run hrun
    have hterms : ∀ term ∈ run.terms, other term = !holds term :=
      fun term hterm => h term (mem_of_mem_runs hrun hterm)
    exact Run.verdict_dual (chain.isRegular_runs.tag_isSome_or_length_eq_one hrun) hterms
  have hverdicts : chain.dual.runs.map (Run.verdict other) =
      ((chain.runs.map (Run.verdict holds)).map not).dual := by
    rw [runs_dual, ← dual_map, map_map, map_map, map_congr hverdict]
  rw [hverdicts, enoughVotes_dual_map_not]

namespace Options

/-- With the operators exchanged segments are grouped with the other tags and separators, and they
are judged the other way round on a candidate in which exactly those terms occur that did not.
Exchanged tokens cut a text into the same terms and the other operators. -/
theorem holds_dual [Engine] :
    (∀ segments : Segments,
        Grouping.ofSegments segments.dual = (Grouping.ofSegments segments).dual) ∧
      (∀ (options : Options) (segments : Segments) (chain : Chain Text)
          (condition dual : Condition),
        segments.pieces = chain.pieces →
        options.condition (.ofSegments segments) = .ok condition →
        options.condition (.ofSegments segments.dual) = .ok dual →
        ∀ candidate other : Text,
          (∀ term ∈ operands segments.pieces,
            Occurs options.caseMode term other ↔ ¬ Occurs options.caseMode term candidate) →
          dual.holds other = !condition.holds candidate) ∧
      ∀ tokens : Tokens, ¬ tokens.and <+: tokens.or → ¬ tokens.or <+: tokens.and →
        ∀ text, Segments.ofText? tokens.swap text =
          (Segments.ofText? tokens text).map Segments.dual := by
  refine ⟨Grouping.ofSegments_dual, ?_, fun _ => Segments.ofText?_swap⟩
  intro options segments chain condition dual hpieces hcondition hdual candidate other hoccurs
  have hpieces' : segments.dual.pieces = chain.dual.pieces := by
    rw [Segments.pieces_segments_dual, hpieces, Chain.pieces_dual]
  have hother : ∀ term ∈ operands chain.pieces,
      options.occurs other term = !options.occurs candidate term := by
    intro term hterm
    rw [← hpieces] at hterm
    rw [occurs, occurs, decide_eq_decide.2 (hoccurs term hterm), decide_not]
  rw [holds_of_condition_ofSegments hpieces hcondition,
    holds_of_condition_ofSegments hpieces' hdual, Chain.enoughVotes_runs_dual hother]

theorem holds_dual_of_three_runs :
    let chain : Chain Text :=
      .link ['a'] .and (.link ['b'] .or (.link ['c'] .or (.link ['d'] .and (.last ['e']))))
    let segments : Segments := .joined chain.pieces
    ∃ condition dual : Condition, segments.pieces = chain.pieces ∧
      ({} : Options).condition (.ofSegments segments) = .ok condition ∧
      ({} : Options).condition (.ofSegments segments.dual) = .ok dual ∧
      (∀ term ∈ operands segments.pieces,
        Occurs .insensitive term "E d".toList ↔ ¬ Occurs .insensitive term "c B a".toList) ∧
      condition.holds "c B a".toList = true ∧ dual.holds "E d".toList = false ∧
      ¬ Tokens.standard.and <+: Tokens.standard.or ∧
      ¬ Tokens.standard.or <+: Tokens.standard.and ∧
      Segments.ofText? Tokens.standard.swap "a && b || c".toList = some
        (.joined [.operand ['a'], .operator .or, .operand ['b'], .operator .and,
          .operand ['c']]) := by
  intro chain segments
  let condition : Condition := .sequence
    [.operand (.allOf .insensitive [.ofTerm ['a'], .ofTerm ['b']]), .operator .or,
      .operand (.anyOf .insensitive [.ofTerm ['c'], .ofTerm ['d']]), .operator .and,
      .operand (.term .insensitive (.ofTerm ['e']))]
  let dual : Condition := .sequence
    [.operand (.anyOf .insensitive [.ofTerm ['a'], .ofTerm ['b']]), .operator .and,
      .operand (.allOf .insensitive [.ofTerm ['c'], .ofTerm ['d']]), .operator .or,
      .operand (.term .insensitive (.ofTerm ['e']))]
  have hcondition : ({} : Options).condition (.ofSegments segments) = .ok condition := rfl
  have hdual : ({} : Options).condition (.ofSegments segments.dual) = .ok dual := rfl
  have hoccurs : ∀ term ∈ operands segments.pieces,
      Occurs .insensitive term "E d".toList ↔ ¬ Occurs .insensitive term "c B a".toList := by decide
  have hholds : condition.holds "c B a".toList = true := by decide
  have hand : ¬ Tokens.standard.and <+: Tokens.standard.or := by decide
  have hor : ¬ Tokens.standard.or <+: Tokens.standard.and := by decide
  have hsplit : Tokens.standard.split "a && b || c".toList =
      .link ['a'] .and (.link ['b'] .or (.last ['c'])) :=
    Chain.split_eq_iff.2 ⟨by decide, by decide⟩
  obtain ⟨-, hjudged, hcut⟩ := holds_dual
  refine ⟨condition, dual, rfl, hcondition, hdual, hoccurs, hholds, ?_, hand, hor, ?_⟩
  · rw [hjudged {} segments chain condition dual rfl hcondition hdual _ _ hoccurs, hholds]
    rfl
  · rw [hcut _ hand hor, Segments.ofText?_of_ne_nil (by decide), hsplit]
    rfl

end Options

end BooleanSearch
