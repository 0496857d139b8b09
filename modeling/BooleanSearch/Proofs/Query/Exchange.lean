import BooleanSearch.Proofs.Query.ChainOfRuns
import Mathlib.Data.List.Infix

set_option autoImplicit false
set_option relaxedAutoImplicit false

namespace BooleanSearch

namespace Tokens

/-- The same two tokens for the other operators. -/
def swap (tokens : Tokens) : Tokens :=
  ⟨tokens.or, tokens.and, tokens.or_ne_nil, tokens.and_ne_nil⟩

variable {tokens : Tokens}

private theorem token_swap (op : Operator) : tokens.swap.token op = tokens.token op.dual := by
  cases op <;> rfl

private theorem eq_of_token_prefix (hand : ¬ tokens.and <+: tokens.or)
    (hor : ¬ tokens.or <+: tokens.and) {text : Text} {op op' : Operator}
    (h : tokens.token op <+: text) (h' : tokens.token op' <+: text) : op = op' := by
  have hcompare := List.prefix_or_prefix_of_prefix h h'
  cases op <;> cases op'
  · rfl
  · exact absurd hcompare (not_or.2 ⟨hand, hor⟩)
  · exact absurd hcompare (not_or.2 ⟨hor, hand⟩)
  · rfl

private theorem read?_swap (hand : ¬ tokens.and <+: tokens.or) (hor : ¬ tokens.or <+: tokens.and)
    (text : Text) :
    tokens.swap.read? text = (tokens.read? text).map (Prod.map Operator.dual id) := by
  cases hread : tokens.read? text with
  | none =>
    rw [read?_eq_none_iff] at hread
    refine read?_eq_none_iff.2 fun op => ?_
    rw [token_swap]
    exact hread op.dual
  | some found =>
    obtain ⟨op, rest⟩ := found
    have htext := eq_append_of_read? hread
    have hop : tokens.token op <+: text := ⟨rest, htext.symm⟩
    refine read?_eq_some_iff.2 ⟨?_, ?_⟩
    · rw [token_swap, Operator.dual_dual]
      exact htext
    · constructor
      · intro hdual
        have hor' : op = .or := by rw [← op.dual_dual, hdual]; rfl
        rwa [hor'] at hop
      · -- The preference for AND decides nothing here.
        intro hstart
        have hor' : op = .or := eq_of_token_prefix hand hor hop hstart
        rw [hor']
        rfl

end Tokens

private theorem Tokens.split_swap {tokens : Tokens} (hand : ¬ tokens.and <+: tokens.or)
    (hor : ¬ tokens.or <+: tokens.and) (text : Text) :
    tokens.swap.split text = (tokens.split text).dual := by
  induction text using Tokens.split.induct tokens with
  | case1 => rw [split, split, Chain.dual]
  | case2 c rest op after hread ih =>
    have hswap : tokens.swap.read? (c :: rest) = some (op.dual, after) := by
      rw [read?_swap hand hor, hread]
      rfl
    rw [split_of_read? hread, split_of_read? hswap, ih, Chain.dual]
  | case3 c rest hread ih =>
    have hswap : tokens.swap.read? (c :: rest) = none := by
      rw [read?_swap hand hor, hread]
      rfl
    rw [split_of_read?_eq_none hread, split_of_read?_eq_none hswap, ih, Chain.dual_mapHead]

namespace Segments

def dual : Segments → Segments
  | .lone term => .lone term
  | .joined pieces => .joined (pieces.map Piece.dual)

theorem pieces_segments_dual (segments : Segments) :
    segments.dual.pieces = segments.pieces.map Piece.dual := by
  cases segments <;> rfl

private theorem ofChain_dual (chain : Chain Text) : ofChain chain.dual = (ofChain chain).dual := by
  cases chain with
  | last term => rfl
  | link term op rest => exact congrArg joined (Chain.pieces_dual (.link term op rest))

theorem ofText?_swap {tokens : Tokens} (hand : ¬ tokens.and <+: tokens.or)
    (hor : ¬ tokens.or <+: tokens.and) (text : Text) :
    ofText? tokens.swap text = (ofText? tokens text).map dual := by
  rw [ofText?, ofText?]
  split
  · rfl
  · rw [Tokens.split_swap hand hor, ofChain_dual, Option.map_some]

end Segments

def Run.dual (run : Run) : Run := ⟨run.tag.map Operator.dual, run.terms⟩

def Piece.dualRun (piece : Piece Run) : Piece Run := piece.dual.map Run.dual

def Grouping.dual : Grouping → Grouping
  | .lone term => .lone term
  | .single run => .single run.dual
  | .mixed pieces => .mixed (pieces.map Piece.dualRun)

private theorem joiningOperator?_map_dual {α : Type} (pieces : List (Piece α)) :
    joiningOperator? (pieces.map Piece.dual) = (joiningOperator? pieces).map Operator.dual := by
  rw [joiningOperator?, joiningOperator?, List.getElem?_map]
  rcases pieces[1]? with - | piece
  · rfl
  · cases piece <;> rfl

private theorem map_dual_eq_some_dual_iff {tag : Option Operator} {op : Operator} :
    tag.map Operator.dual = some op.dual ↔ tag = some op := by
  rcases tag with - | op'
  · simp
  · cases op <;> cases op' <;> decide

private theorem runsFrom_map_dual (tag : Option Operator) (terms : List Text)
    (pieces : List (Piece Text)) :
    runsFrom (tag.map Operator.dual) terms (pieces.map Piece.dual) =
      (runsFrom tag terms pieces).map Piece.dualRun := by
  fun_induction runsFrom tag terms pieces with
  | case1 => rfl
  | case2 => rfl
  | case3 tag terms term piece pieces ih => exact ih
  | case4 terms op pieces ih =>
    rw [List.map_cons, Piece.dual, runsFrom, if_pos (map_dual_eq_some_dual_iff.2 rfl), ih]
  | case5 tag terms op pieces htag ih =>
    rw [List.map_cons, Piece.dual, runsFrom, if_neg (mt map_dual_eq_some_dual_iff.1 htag),
      joiningOperator?_map_dual, ih]
    rfl

private theorem runs_map_dual (pieces : List (Piece Text)) :
    runs (pieces.map Piece.dual) = (runs pieces).map Piece.dualRun := by
  rw [runs, joiningOperator?_map_dual, runsFrom_map_dual, runs]

theorem Grouping.ofSegments_dual (segments : Segments) :
    ofSegments segments.dual = (ofSegments segments).dual := by
  cases segments with
  | lone term => rfl
  | joined pieces =>
    rw [Segments.dual, ofSegments, runs_map_dual, ofSegments]
    rcases runs pieces with - | ⟨piece, others⟩
    · rfl
    · cases others <;> cases piece <;> rfl

private theorem Chain.pieces_dual_map_dual (runs : Chain Run) :
    (runs.map Run.dual).dual.pieces = runs.pieces.map Piece.dualRun := by
  rw [dual_map, pieces_map, pieces_dual, List.map_map]
  rfl

theorem Chain.runs_dual (chain : Chain Text) :
    chain.dual.runs = (chain.runs.map Run.dual).dual := by
  apply pieces_injective
  rw [← runs_pieces, pieces_dual, runs_map_dual, runs_pieces, pieces_dual_map_dual]

end BooleanSearch
