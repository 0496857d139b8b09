import BooleanSearch.Condition.Estimate
import BooleanSearch.Proofs.Condition.Compiled
import Mathlib.Data.List.Chain

set_option autoImplicit false
set_option relaxedAutoImplicit false

namespace BooleanSearch

/-- The list in twos; a last member that is left over is by itself. -/
def pairs {α : Type} : List α → List (List α)
  | [] => []
  | [a] => [[a]]
  | a :: b :: rest => [a, b] :: pairs rest

namespace Chain

/-- The runs of a chain whose operators alternate, the first one being this, are its pairs of terms;
the other operator stands between them. -/
theorem runs_of_isChain_ne (holds : Text → Bool) (op : Operator) :
    (chain : Chain Text) → (op.dual :: operators chain.pieces).IsChain (· ≠ ·) →
      (∀ separator ∈ operators chain.runs.pieces, separator = op.dual) ∧
        (operands chain.runs.pieces).map (Run.verdict holds) =
          (pairs (operands chain.pieces)).map fun pair => op.joinAll (pair.map holds)
  | .last term, _ => by
    refine ⟨fun _ hnone => absurd hnone List.not_mem_nil, ?_⟩
    show [(Run.mk none [term]).verdict holds] = [op.joinAll [holds term]]
    rw [Run.verdict_singleton, Operator.joinAll_singleton]
  | .link term first (.last next), h => by
    rw [operators_pieces_link, List.isChain_cons_cons] at h
    obtain rfl : first = op := by rw [Operator.eq_dual_of_ne h.1, Operator.dual_dual]
    have hruns : (link term first (last next)).runs = .last ⟨some first, [term, next]⟩ := by
      rw [runs, firstOperator?, runsFrom, if_pos rfl, runsFrom]
      rfl
    rw [hruns]
    refine ⟨fun _ hnone => absurd hnone List.not_mem_nil, ?_⟩
    show [(Run.mk (some first) [term, next]).verdict holds] =
      [first.joinAll [holds term, holds next]]
    rw [Run.verdict_some]
    rfl
  | .link term first (.link next second rest), h => by
    rw [operators_pieces_link, operators_pieces_link, List.isChain_cons_cons,
      List.isChain_cons_cons] at h
    obtain ⟨hfirst, hsecond, hrest⟩ := h
    obtain rfl : first = op := by rw [Operator.eq_dual_of_ne hfirst, Operator.dual_dual]
    obtain rfl : second = first.dual := Operator.eq_dual_of_ne hsecond
    -- The second operator closes the run, and what follows begins like the whole chain.
    obtain ⟨hseparators, hverdicts⟩ := runs_of_isChain_ne holds first rest hrest
    rw [runs_link_link hsecond, operators_pieces_link, operands_pieces_link, List.forall_mem_cons]
    refine ⟨⟨rfl, hseparators⟩, ?_⟩
    rw [List.map_cons, hverdicts, Run.verdict_some]
    rfl

end Chain

namespace Options

/-- Terms joined by alternating operators are judged in pairs: each pair by the first operator, and
the pairs by the other one. -/
theorem holds_of_alternating [Engine] {options : Options} {term : Text} {op : Operator}
    {rest : Chain Text}
    (halternating : (operators (Chain.link term op rest).pieces).IsChain (· ≠ ·))
    {condition : Condition}
    (hcondition : options.condition (.ofSegments (.joined (Chain.link term op rest).pieces)) =
      .ok condition) (candidate : Text) :
    condition.holds candidate =
      op.dual.joinAll ((pairs (operands (Chain.link term op rest).pieces)).map fun pair =>
        op.joinAll (pair.map (options.occurs candidate))) := by
  let chain : Chain Text := .link term op rest
  let holds := options.occurs candidate
  have hfirst : (op.dual :: operators chain.pieces).IsChain (· ≠ ·) := by
    rw [Chain.operators_pieces_link, List.isChain_cons_cons]
    exact ⟨op.dual_ne, halternating⟩
  obtain ⟨hseparators, hverdicts⟩ := chain.runs_of_isChain_ne holds op hfirst
  have hsame : ∀ separator ∈ operators (chain.runs.map (Run.verdict holds)).pieces,
      separator = op.dual := by
    rwa [Chain.operators_pieces_map]
  calc condition.holds candidate
      = enoughVotes (chain.runs.map (Run.verdict holds)).pieces :=
        holds_of_condition_ofSegments rfl hcondition candidate
    _ = op.dual.joinAll (operands (chain.runs.map (Run.verdict holds)).pieces) :=
        Chain.enoughVotes_of_forall_eq hsame
    _ = op.dual.joinAll ((operands chain.runs.pieces).map (Run.verdict holds)) := by
        rw [Chain.operands_pieces_map]
    _ = _ := by rw [hverdicts]

theorem holds_of_alternating_two_pairs :
    let chain : Chain Text :=
      .link ['a'] .or (.link ['b'] .and (.link ['c'] .or (.link ['d'] .and (.last ['e']))))
    let occurs := ({} : Options).occurs "e D a".toList
    ∃ condition : Condition, (operators chain.pieces).IsChain (· ≠ ·) ∧
      ({} : Options).condition (.ofSegments (.joined chain.pieces)) = .ok condition ∧
      condition.holds "e D a".toList =
        ((occurs ['a'] || occurs ['b']) && (occurs ['c'] || occurs ['d']) && occurs ['e']) ∧
      condition.holds "e D a".toList = true := by
  intro chain occurs
  have halternating : (operators chain.pieces).IsChain (· ≠ ·) := by decide
  have hok : (({} : Options).condition (.ofSegments (.joined chain.pieces))).isOk := by
    decide +kernel
  obtain ⟨condition, hcondition⟩ := exists_eq_ok_of_isOk hok
  have hholds := holds_of_alternating halternating hcondition "e D a".toList
  refine ⟨condition, halternating, hcondition, ?_, ?_⟩
  · rw [hholds]
    decide
  · rw [hholds]
    decide

end Options

end BooleanSearch
