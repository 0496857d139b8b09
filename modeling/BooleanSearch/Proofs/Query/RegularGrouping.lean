import BooleanSearch.Proofs.Query.ChainOfRuns

/-!
# Regular groupings

In a regular grouping each run but the last has several terms and a tag, and is closed by an
operator other than its tag; the last run may also be one term without a tag. Grouping and
flattening are inverse to each other between chains of terms and regular groupings.
-/

set_option autoImplicit false
set_option relaxedAutoImplicit false

namespace BooleanSearch

def Run.IsFull (run : Run) : Prop := run.tag.isSome ∧ 2 ≤ run.terms.length

/-- All runs but the last are full and closed by an operator other than their tag. -/
def Chain.IsRegular : Chain Run → Prop
  | .last run => run.IsFull ∨ (run.tag = none ∧ run.terms.length = 1)
  | .link run op rest => run.IsFull ∧ run.tag ≠ some op ∧ rest.IsRegular

def Grouping.IsRegular : Grouping → Prop
  | .lone _ => False
  | .single run => run.IsFull
  | .mixed pieces => ∃ run op rest,
    pieces = (Chain.link run op rest).pieces ∧ (Chain.link run op rest).IsRegular

namespace Run

private theorem exists_of_isFull {run : Run} (h : run.IsFull) :
    ∃ op terms term, terms ≠ [] ∧ run = ⟨some op, terms ++ [term]⟩ := by
  obtain ⟨tag, terms⟩ := run
  obtain ⟨htag, hlength⟩ := h
  obtain ⟨op, rfl⟩ := Option.isSome_iff_exists.1 htag
  have hne : terms ≠ [] := by
    rintro rfl
    simp at hlength
  refine ⟨op, terms.dropLast, terms.getLast hne, ?_, ?_⟩
  · intro hnil
    have := congrArg List.length hnil
    simp only [List.length_dropLast, List.length_nil] at this hlength
    omega
  · rw [List.dropLast_concat_getLast]

private theorem exists_of_not_tagged {run : Run} (htag : run.tag = none)
    (hlength : run.terms.length = 1) :
    ∃ term, run = ⟨none, [term]⟩ := by
  obtain ⟨tag, terms⟩ := run
  obtain ⟨term, rfl⟩ := List.length_eq_one_iff.1 hlength
  obtain rfl : tag = none := htag
  exact ⟨term, rfl⟩

end Run

-- In a full run a second term follows the first tag, so the look ahead finds the tag.
private theorem joiningOperator?_opening (op : Operator) {terms : List Text} (h : terms ≠ [])
    (pieces : List (Piece Text)) : joiningOperator? (opening op terms ++ pieces) = some op := by
  obtain ⟨term, terms, rfl⟩ := List.exists_cons_of_ne_nil h
  rfl

private theorem runsFrom_opening (op : Operator) (before terms : List Text)
    (pieces : List (Piece Text)) :
    runsFrom (some op) before (opening op terms ++ pieces) =
      runsFrom (some op) (before ++ terms) pieces := by
  induction terms generalizing before with
  | nil => simp [opening]
  | cons term terms ih =>
    have hopening :
        opening op (term :: terms) = .operand term :: .operator op :: opening op terms :=
      rfl
    simp only [hopening, List.cons_append, runsFrom, if_true]
    rw [ih, List.append_assoc, List.singleton_append]

private theorem runs_full (op : Operator) {terms : List Text} (hterms : terms ≠ []) (term : Text) :
    runs (Run.mk (some op) (terms ++ [term])).pieces = [.operand ⟨some op, terms ++ [term]⟩] := by
  rw [pieces_run_append, runs, joiningOperator?_opening op hterms, runsFrom_opening]
  rfl

private theorem runs_full_append (op : Operator) {terms : List Text} (hterms : terms ≠ [])
    (term : Text) {op' : Operator} (hop : op ≠ op') (pieces : List (Piece Text)) :
    runs ((Run.mk (some op) (terms ++ [term])).pieces ++ .operator op' :: pieces) =
      .operand ⟨some op, terms ++ [term]⟩ :: .operator op' :: runs pieces := by
  rw [pieces_run_append, List.append_assoc, runs, joiningOperator?_opening op hterms,
    runsFrom_opening]
  simp [runsFrom, hop, runs]

/-- A regular chain of runs is found again once it is flattened. -/
theorem Chain.IsRegular.runs_flatten {chain : Chain Run} (h : chain.IsRegular) :
    BooleanSearch.runs (chain.pieces.flatMap Piece.flatten) = chain.pieces := by
  induction chain with
  | last run =>
    rw [pieces, List.flatMap_singleton, Piece.flatten]
    rcases h with hfull | ⟨htag, hlength⟩
    · obtain ⟨op, terms, term, hterms, rfl⟩ := Run.exists_of_isFull hfull
      exact runs_full op hterms term
    · obtain ⟨term, rfl⟩ := Run.exists_of_not_tagged htag hlength
      rfl
  | link run op rest ih =>
    obtain ⟨hfull, htag, hrest⟩ := h
    obtain ⟨tag, terms, term, hterms, rfl⟩ := Run.exists_of_isFull hfull
    have hop : tag ≠ op := fun hop => htag (congrArg some hop)
    simp only [pieces, List.flatMap_cons, Piece.flatten, List.singleton_append]
    rw [runs_full_append tag hterms term hop, ih hrest]

namespace Chain

private theorem isRegular_runsFrom (chain : Chain Text) (tag : Option Operator) (terms : List Text)
    (h : (tag.isSome ∧ terms ≠ []) ∨ (tag = chain.firstOperator? ∧ terms = [])) :
    (chain.runsFrom tag terms).IsRegular := by
  -- The open run has a term that its tag joins to the next one, or it has no term yet and its tag is
  -- the operator that will join its first two.
  induction chain generalizing tag terms with
  | last term =>
    rcases h with ⟨htag, hterms⟩ | ⟨rfl, rfl⟩
    · have hlength := List.length_pos_iff.2 hterms
      refine Or.inl ⟨htag, ?_⟩
      rw [List.length_append, List.length_singleton]
      omega
    · exact Or.inr ⟨rfl, rfl⟩
  | link term op rest ih =>
    have htag : tag.isSome := by
      rcases h with ⟨htag, -⟩ | ⟨rfl, -⟩
      · exact htag
      · rfl
    rw [runsFrom]
    split
    · exact ih _ _ (Or.inl ⟨htag, by simp⟩)
    · rename_i hop
      rcases h with ⟨-, hterms⟩ | ⟨rfl, -⟩
      · have hlength := List.length_pos_iff.2 hterms
        refine ⟨⟨htag, ?_⟩, hop, ih _ _ (Or.inr ⟨rfl, rfl⟩)⟩
        rw [List.length_append, List.length_singleton]
        omega
      · exact absurd rfl hop

theorem isRegular_runs (chain : Chain Text) : chain.runs.IsRegular :=
  isRegular_runsFrom chain _ _ (Or.inr ⟨rfl, rfl⟩)

theorem IsRegular.tag_isSome_or_length_eq_one {runs : Chain Run} (h : runs.IsRegular) {run : Run}
    (hrun : run ∈ operands runs.pieces) : run.tag.isSome ∨ run.terms.length = 1 := by
  induction runs with
  | last value =>
    obtain rfl := List.mem_singleton.1 hrun
    rcases h with hfull | hlone
    · exact Or.inl hfull.1
    · exact Or.inr hlone.2
  | link value op rest ih =>
    obtain ⟨hfull, -, hrest⟩ := h
    rcases List.mem_cons.1 hrun with rfl | hrun
    · exact Or.inl hfull.1
    · exact ih hrest hrun

private theorem runsFrom_eq_last_iff (chain : Chain Text) (tag : Operator) (terms : List Text) :
    (∃ run, chain.runsFrom (some tag) terms = .last run) ↔
      ∀ op ∈ operators chain.pieces, tag = op := by
  induction chain generalizing terms with
  | last term => simp [runsFrom]
  | link term op rest ih =>
    rw [operators_pieces_link, List.forall_mem_cons, runsFrom]
    by_cases hop : tag = op
    · subst hop
      simpa using ih (terms ++ [term])
    · simp [hop]

private theorem exists_pieces_of_isFull {run : Run} (h : run.IsFull) :
    ∃ term op rest, run.pieces = (Chain.link term op rest).pieces := by
  obtain ⟨op, terms, last, hterms, rfl⟩ := Run.exists_of_isFull h
  obtain ⟨term, terms, rfl⟩ := List.exists_cons_of_ne_nil hterms
  rw [pieces_run_append]
  clear h hterms
  induction terms generalizing term with
  | nil => exact ⟨term, op, .last last, rfl⟩
  | cons next terms ih =>
    obtain ⟨term', op', rest, hpieces⟩ := ih next
    refine ⟨term, op, .link term' op' rest, ?_⟩
    rw [pieces, ← hpieces]
    rfl

private theorem exists_flatten_link {run : Run} (h : run.IsFull) (op : Operator) {rest : Chain Run}
    {terms : Chain Text} (hrest : rest.pieces.flatMap Piece.flatten = terms.pieces) :
    ∃ term op' terms', (Chain.link run op rest).pieces.flatMap Piece.flatten =
      (Chain.link term op' terms').pieces := by
  obtain ⟨term, op', first, hfirst⟩ := exists_pieces_of_isFull h
  refine ⟨term, op', first.append op terms, ?_⟩
  change run.pieces ++ .operator op :: rest.pieces.flatMap Piece.flatten =
    ((Chain.link term op' first).append op terms).pieces
  rw [pieces_append, hfirst, hrest]

private theorem IsRegular.exists_flatten {chain : Chain Run} (h : chain.IsRegular) :
    ∃ terms : Chain Text, chain.pieces.flatMap Piece.flatten = terms.pieces := by
  induction chain with
  | last run =>
    rw [pieces, List.flatMap_singleton, Piece.flatten]
    rcases h with hfull | ⟨htag, hlength⟩
    · obtain ⟨term, op, rest, hpieces⟩ := exists_pieces_of_isFull hfull
      exact ⟨_, hpieces⟩
    · obtain ⟨term, rfl⟩ := Run.exists_of_not_tagged htag hlength
      exact ⟨.last term, rfl⟩
  | link run op rest ih =>
    obtain ⟨hfull, -, hrest⟩ := h
    obtain ⟨terms, hterms⟩ := ih hrest
    obtain ⟨term, op', terms', hpieces⟩ := exists_flatten_link hfull op hterms
    exact ⟨_, hpieces⟩

end Chain

namespace Grouping

private theorem isRegular_ofSegments (term : Text) (op : Operator) (rest : Chain Text) :
    (ofSegments (.joined (Chain.link term op rest).pieces)).IsRegular := by
  have hregular := (Chain.link term op rest).isRegular_runs
  rw [ofSegments_joined]
  cases hruns : (Chain.link term op rest).runs with
  | last run =>
    rw [hruns] at hregular
    rcases hregular with hfull | ⟨htag, hlength⟩
    · exact hfull
    · -- One term alone would flatten to a single piece.
      obtain ⟨only, rfl⟩ := Run.exists_of_not_tagged htag hlength
      have hflatten := flatten_runs (.link term op rest)
      rw [Chain.runs_pieces, hruns] at hflatten
      simp [Chain.pieces, Piece.flatten, Run.pieces] at hflatten
  | link run op' others =>
    rw [hruns] at hregular
    exact ⟨run, op', others, rfl, hregular⟩

private theorem IsRegular.ofSegments_pieces {grouping : Grouping} (h : grouping.IsRegular) :
    ofSegments (.joined grouping.pieces) = grouping := by
  cases grouping with
  | lone term => exact h.elim
  | single run =>
    have hregular : (Chain.last run).IsRegular := Or.inl h
    have hruns := hregular.runs_flatten
    rw [Chain.pieces, List.flatMap_singleton, Piece.flatten] at hruns
    rw [pieces, ofSegments, hruns]
  | mixed pieces =>
    obtain ⟨run, op, rest, rfl, hregular⟩ := h
    rw [Grouping.pieces, ofSegments, hregular.runs_flatten]
    rfl

private theorem IsRegular.exists_pieces {grouping : Grouping} (h : grouping.IsRegular) :
    ∃ term op rest, grouping.pieces = (Chain.link term op rest).pieces := by
  cases grouping with
  | lone term => exact h.elim
  | single run => exact Chain.exists_pieces_of_isFull h
  | mixed pieces =>
    obtain ⟨run, op, rest, rfl, hregular⟩ := h
    obtain ⟨hfull, -, hrest⟩ := hregular
    obtain ⟨terms, hterms⟩ := hrest.exists_flatten
    exact Chain.exists_flatten_link hfull op hterms

private theorem exists_single_iff (term : Text) (op : Operator) (rest : Chain Text) :
    (∃ run, ofSegments (.joined (Chain.link term op rest).pieces) = .single run) ↔
      ∀ a ∈ operators (Chain.link term op rest).pieces,
        ∀ b ∈ operators (Chain.link term op rest).pieces, a = b := by
  have hsingle : (∃ run, ofSegments (.joined (Chain.link term op rest).pieces) = .single run) ↔
      ∃ run, (Chain.link term op rest).runsFrom (some op) [] = .last run := by
    simp only [ofSegments_joined, ofRuns_eq_single_iff]
    rfl
  rw [hsingle, Chain.runsFrom_eq_last_iff]
  constructor
  · intro h a ha b hb
    exact (h a ha).symm.trans (h b hb)
  · intro h a ha
    exact h op (by simp) a ha

/-- Grouping a chain of several terms loses nothing and gives its only regular grouping; every
regular grouping is the one of a chain of several terms. -/
theorem ofSegments_isRegular_unique :
    (∀ (term : Text) (op : Operator) (rest : Chain Text),
      let pieces := (Chain.link term op rest).pieces
      let grouping := ofSegments (.joined pieces)
      grouping.pieces = pieces ∧ grouping.IsRegular ∧
        (∀ other : Grouping, other.IsRegular → other.pieces = pieces → other = grouping) ∧
        ((∃ run, grouping = .single run) ↔
          ∀ a ∈ operators pieces, ∀ b ∈ operators pieces, a = b)) ∧
    ∀ grouping : Grouping, grouping.IsRegular →
      (∃ term op rest, grouping.pieces = (Chain.link term op rest).pieces) ∧
        ofSegments (.joined grouping.pieces) = grouping := by
  refine ⟨fun term op rest => ?_, fun grouping h => ⟨h.exists_pieces, h.ofSegments_pieces⟩⟩
  refine ⟨pieces_ofSegments_joined _, isRegular_ofSegments term op rest, ?_,
    exists_single_iff term op rest⟩
  intro other hother hpieces
  rw [← hpieces]
  exact hother.ofSegments_pieces.symm

theorem ofSegments_three_runs :
    let grouping : Grouping := .mixed
      [.operand ⟨some .and, ["a".toList, "b".toList]⟩, .operator .or,
        .operand ⟨some .or, ["c".toList, "d".toList]⟩, .operator .and, .operand ⟨none, ["e".toList]⟩]
    grouping.IsRegular ∧ ofSegments (.joined grouping.pieces) = grouping := by
  intro grouping
  have hregular : grouping.IsRegular :=
    ⟨⟨some .and, ["a".toList, "b".toList]⟩, .or,
      .link ⟨some .or, ["c".toList, "d".toList]⟩ .and (.last ⟨none, ["e".toList]⟩), rfl,
      by simp [Chain.IsRegular, Run.IsFull]⟩
  exact ⟨hregular, (ofSegments_isRegular_unique.2 grouping hregular).2⟩

end Grouping

end BooleanSearch
