import BooleanSearch.Query.Grouping

/-!
# Grouping pieces in any order

Pieces need not alternate: a sequence may start or end with an operator, and terms or operators may
stand in a row. Such a sequence is still divided into stretches. A stretch has one tag, found by the
look ahead from its start, and holds no other operator; an operator that differs from the tag ends
it. Each stretch becomes one run, except that the last one is dropped if no term stands at its end.
-/

set_option autoImplicit false
set_option relaxedAutoImplicit false

namespace BooleanSearch

abbrev Stretch := List (Piece Text)

def EndsWithTerm (pieces : List (Piece Text)) : Prop :=
  ∃ term, pieces.getLast? = some (.operand term)

namespace Chain

def concat : Chain Stretch → List (Piece Text)
  | .last stretch => stretch
  | .link stretch op rest => stretch ++ .operator op :: rest.concat

/-- The first stretch holds no operator but this tag and is ended by an operator other than it;
every later one is such a stretch with the tag that the look ahead finds where it starts. -/
def IsDividedFrom (tag : Option Operator) : Chain Stretch → Prop
  | .last stretch => ∀ op ∈ operators stretch, tag = some op
  | .link stretch op rest => (∀ op' ∈ operators stretch, tag = some op') ∧ tag ≠ some op ∧
      rest.IsDividedFrom (joiningOperator? rest.concat)

def IsDivisionOf (stretches : Chain Stretch) (pieces : List (Piece Text)) : Prop :=
  stretches.concat = pieces ∧ stretches.IsDividedFrom (joiningOperator? pieces)

def stretchRuns (tag : Option Operator) : Chain Stretch → Chain Run
  | .last stretch => .last ⟨tag, operands stretch⟩
  | .link stretch op rest =>
    .link ⟨tag, operands stretch⟩ op (rest.stretchRuns (joiningOperator? rest.concat))

end Chain

section RunsFrom

variable {tag : Option Operator} {stretch : Stretch}

private theorem endsWithTerm_append_operator (before : List (Piece Text)) (op : Operator)
    (after : List (Piece Text)) :
    EndsWithTerm (before ++ .operator op :: after) ↔ EndsWithTerm after := by
  rw [EndsWithTerm, EndsWithTerm, List.getLast?_append, List.getLast?_cons]
  cases after.getLast? <;> simp

private theorem runsFrom_operand_cons (tag : Option Operator) (terms : List Text) (term : Text)
    {pieces : List (Piece Text)} (h : pieces ≠ []) :
    runsFrom tag terms (.operand term :: pieces) = runsFrom tag (terms ++ [term]) pieces := by
  obtain ⟨piece, rest, rfl⟩ := List.exists_cons_of_ne_nil h
  rfl

private theorem runsFrom_append_operator (h : ∀ op ∈ operators stretch, tag = some op)
    {op : Operator} (hop : tag ≠ some op) (terms : List Text) (after : List (Piece Text)) :
    runsFrom tag terms (stretch ++ .operator op :: after) =
      .operand ⟨tag, terms ++ operands stretch⟩ :: .operator op :: runs after := by
  induction stretch generalizing terms with
  | nil =>
    rw [List.nil_append, runsFrom, if_neg hop, operands, List.filterMap_nil, List.append_nil, runs]
  | cons piece stretch ih =>
    cases piece with
    | operand term =>
      have hne : stretch ++ .operator op :: after ≠ [] := by simp
      rw [List.cons_append, runsFrom_operand_cons tag terms term hne, ih h, List.append_assoc]
      rfl
    | operator joining =>
      obtain ⟨hjoining, hrest⟩ := List.forall_mem_cons.1 h
      rw [List.cons_append, runsFrom, if_pos hjoining, ih hrest]
      rfl

private theorem runsFrom_of_endsWithTerm (h : ∀ op ∈ operators stretch, tag = some op)
    (hend : EndsWithTerm stretch) (terms : List Text) :
    runsFrom tag terms stretch = [.operand ⟨tag, terms ++ operands stretch⟩] := by
  induction stretch generalizing terms with
  | nil =>
    obtain ⟨term, hterm⟩ := hend
    exact absurd hterm (by simp)
  | cons piece stretch ih =>
    cases piece with
    | operand term =>
      by_cases hne : stretch = []
      · rw [hne]
        rfl
      · have hend' : EndsWithTerm stretch := by
          rwa [EndsWithTerm, List.getLast?_cons_of_ne_nil hne] at hend
        rw [runsFrom_operand_cons tag terms term hne, ih h hend', List.append_assoc]
        rfl
    | operator op =>
      obtain ⟨hop, hrest⟩ := List.forall_mem_cons.1 h
      have hend' : EndsWithTerm stretch := (endsWithTerm_append_operator [] op stretch).1 hend
      rw [runsFrom, if_pos hop, ih hrest hend']
      rfl

private theorem runsFrom_of_not_endsWithTerm (h : ∀ op ∈ operators stretch, tag = some op)
    (hend : ¬ EndsWithTerm stretch) (terms : List Text) : runsFrom tag terms stretch = [] := by
  induction stretch generalizing terms with
  | nil => rfl
  | cons piece stretch ih =>
    cases piece with
    | operand term =>
      have hne : stretch ≠ [] := by
        rintro rfl
        exact hend ⟨term, rfl⟩
      rw [EndsWithTerm, List.getLast?_cons_of_ne_nil hne] at hend
      rw [runsFrom_operand_cons tag terms term hne, ih h hend]
    | operator op =>
      obtain ⟨hop, hrest⟩ := List.forall_mem_cons.1 h
      have hend' : ¬ EndsWithTerm stretch :=
        fun hstretch => hend ((endsWithTerm_append_operator [] op stretch).2 hstretch)
      rw [runsFrom, if_pos hop, ih hrest hend']

end RunsFrom

def IsAlternating {α : Type} (pieces : List (Piece α)) : Prop :=
  ∀ place piece, pieces[place]? = some piece → (piece.operand?.isSome ↔ place % 2 = 0)

namespace Chain

section Pieces

variable {α : Type}

private theorem isAlternating_pieces (chain : Chain α) : IsAlternating chain.pieces := by
  induction chain with
  | last value =>
    intro place piece hpiece
    rcases place with - | place
    · obtain rfl := Option.some.inj hpiece
      simp [Piece.operand?]
    · exact absurd hpiece (by simp [pieces])
  | link value op rest ih =>
    intro place piece hpiece
    rcases place with - | - | place
    · obtain rfl := Option.some.inj hpiece
      simp [Piece.operand?]
    · obtain rfl := Option.some.inj hpiece
      simp [Piece.operand?]
    · change _ ↔ (place + 2) % 2 = 0
      rw [Nat.add_mod_right]
      exact ih place piece hpiece

private theorem exists_getLast?_pieces (chain : Chain α) :
    ∃ value, chain.pieces.getLast? = some (.operand value) := by
  induction chain with
  | last value => exact ⟨value, rfl⟩
  | link value op rest ih =>
    obtain ⟨last, hlast⟩ := ih
    refine ⟨last, ?_⟩
    rw [pieces, List.getLast?_cons_cons, List.getLast?_cons_of_ne_nil rest.pieces_ne_nil, hlast]

private theorem getLast?_dropLast_pieces (chain : Chain α) (value : α) :
    chain.pieces.dropLast.getLast? ≠ some (.operand value) := by
  induction chain with
  | last _ => simp [pieces]
  | link first op rest ih =>
    rw [dropLast_pieces_link, List.getLast?_cons_cons, List.getLast?_cons]
    cases hlast : rest.pieces.dropLast.getLast? with
    | none => simp
    | some piece => rwa [hlast] at ih

private theorem eq_last_or_eq_append (chain : Chain α) :
    (∃ value, chain = .last value) ∨
      ∃ (front : Chain α) (op : Operator) (value : α), chain = front.append op (.last value) := by
  induction chain with
  | last value => exact .inl ⟨value, rfl⟩
  | link value op rest ih =>
    rcases ih with ⟨last, rfl⟩ | ⟨front, op', last, rfl⟩
    · exact .inr ⟨.last value, op, last, rfl⟩
    · exact .inr ⟨.link value op front, op', last, rfl⟩

end Pieces

section Stretches

variable {stretches : Chain Stretch} {tag : Option Operator}

private theorem runsFrom_concat_of_endsWithTerm (h : stretches.IsDividedFrom tag)
    (hend : EndsWithTerm stretches.concat) :
    runsFrom tag [] stretches.concat = (stretches.stretchRuns tag).pieces := by
  induction stretches generalizing tag with
  | last stretch => exact runsFrom_of_endsWithTerm h hend []
  | link stretch op rest ih =>
    obtain ⟨hstretch, hop, hrest⟩ := h
    have hend' := (endsWithTerm_append_operator stretch op rest.concat).1 hend
    rw [concat, runsFrom_append_operator hstretch hop, runs, ih hrest hend']
    rfl

private theorem runsFrom_concat_of_not_endsWithTerm (h : stretches.IsDividedFrom tag)
    (hend : ¬ EndsWithTerm stretches.concat) :
    runsFrom tag [] stretches.concat = (stretches.stretchRuns tag).pieces.dropLast := by
  induction stretches generalizing tag with
  | last stretch => exact runsFrom_of_not_endsWithTerm h hend []
  | link stretch op rest ih =>
    obtain ⟨hstretch, hop, hrest⟩ := h
    have hend' := mt (endsWithTerm_append_operator stretch op rest.concat).2 hend
    rw [concat, runsFrom_append_operator hstretch hop, runs, ih hrest hend', stretchRuns,
      dropLast_pieces_link]
    rfl

private theorem concat_mapHead_cons (piece : Piece Text) (stretches : Chain Stretch) :
    (stretches.mapHead (piece :: ·)).concat = piece :: stretches.concat := by
  cases stretches <;> rfl

private theorem IsDividedFrom.mapHead_cons (h : stretches.IsDividedFrom tag) {piece : Piece Text}
    (hpiece : ∀ op ∈ piece.operator?, tag = some op) :
    (stretches.mapHead (piece :: ·)).IsDividedFrom tag := by
  have hcons : ∀ stretch : Stretch, (∀ op ∈ operators stretch, tag = some op) →
      ∀ op ∈ operators (piece :: stretch), tag = some op := by
    intro stretch hstretch op hop
    obtain ⟨member, hmem, hmember⟩ := List.mem_filterMap.1 hop
    rcases List.mem_cons.1 hmem with rfl | hmem
    · exact hpiece op hmember
    · exact hstretch op (List.mem_filterMap.2 ⟨member, hmem, hmember⟩)
  cases stretches with
  | last stretch => exact hcons stretch h
  | link stretch op rest => exact ⟨hcons stretch h.1, h.2⟩

private theorem exists_isDividedFrom (tag : Option Operator) (pieces : List (Piece Text)) :
    ∃ stretches : Chain Stretch, stretches.concat = pieces ∧ stretches.IsDividedFrom tag := by
  induction pieces generalizing tag with
  | nil => exact ⟨.last [], rfl, fun _ hop => absurd hop List.not_mem_nil⟩
  | cons piece pieces ih =>
    have hjoin : (∀ op ∈ piece.operator?, tag = some op) →
        ∃ stretches : Chain Stretch, stretches.concat = piece :: pieces ∧
          stretches.IsDividedFrom tag := by
      intro hpiece
      obtain ⟨stretches, rfl, hdivided⟩ := ih tag
      exact ⟨_, concat_mapHead_cons piece stretches, hdivided.mapHead_cons hpiece⟩
    cases piece with
    | operand term => exact hjoin fun _ hop => absurd hop (by simp [Piece.operator?])
    | operator op =>
      by_cases hop : tag = some op
      · exact hjoin fun _ hmem => hop.trans hmem
      · obtain ⟨stretches, rfl, hdivided⟩ := ih (joiningOperator? pieces)
        exact ⟨.link [] op stretches, rfl, fun _ hmem => absurd hmem List.not_mem_nil, hop,
          hdivided⟩

private theorem exists_isDivisionOf (pieces : List (Piece Text)) :
    ∃ stretches : Chain Stretch, stretches.IsDivisionOf pieces :=
  exists_isDividedFrom (joiningOperator? pieces) pieces

private theorem operators_stretchRuns (stretches : Chain Stretch) (tag : Option Operator) :
    operators (stretches.stretchRuns tag).pieces = operators stretches.pieces := by
  induction stretches generalizing tag with
  | last stretch => rfl
  | link stretch op rest ih => rw [stretchRuns, operators_pieces_link, operators_pieces_link, ih]

private theorem map_terms_stretchRuns (stretches : Chain Stretch) (tag : Option Operator) :
    (operands (stretches.stretchRuns tag).pieces).map Run.terms =
      (operands stretches.pieces).map operands := by
  induction stretches generalizing tag with
  | last stretch => rfl
  | link stretch op rest ih =>
    rw [stretchRuns, operands_pieces_link, operands_pieces_link, List.map_cons, List.map_cons, ih]

private theorem operands_concat (stretches : Chain Stretch) :
    operands stretches.concat = (operands stretches.pieces).flatMap operands := by
  induction stretches with
  | last stretch => simp [concat]
  | link stretch op rest ih =>
    rw [concat, operands, List.filterMap_append, operands_pieces_link, List.flatMap_cons, ← ih]
    rfl

private theorem concat_append (op : Operator) (front later : Chain Stretch) :
    (front.append op later).concat = front.concat ++ .operator op :: later.concat := by
  induction front with
  | last stretch => rfl
  | link stretch op' rest ih => rw [append, concat, ih, concat, List.append_assoc]; rfl

end Stretches

end Chain

section Runs

variable {pieces : List (Piece Text)}

private theorem isAlternating_runs (pieces : List (Piece Text)) : IsAlternating (runs pieces) := by
  obtain ⟨stretches, rfl, hdivided⟩ := Chain.exists_isDivisionOf pieces
  have hall := (stretches.stretchRuns (joiningOperator? stretches.concat)).isAlternating_pieces
  by_cases hend : EndsWithTerm stretches.concat
  · rwa [runs, Chain.runsFrom_concat_of_endsWithTerm hdivided hend]
  · rw [runs, Chain.runsFrom_concat_of_not_endsWithTerm hdivided hend]
    intro place piece hpiece
    rw [List.getElem?_dropLast] at hpiece
    split at hpiece
    · exact hall place piece hpiece
    · exact absurd hpiece (by simp)

private theorem getLast?_runs_iff (pieces : List (Piece Text)) :
    (∃ run, (runs pieces).getLast? = some (.operand run)) ↔ EndsWithTerm pieces := by
  obtain ⟨stretches, rfl, hdivided⟩ := Chain.exists_isDivisionOf pieces
  by_cases hend : EndsWithTerm stretches.concat
  · rw [runs, Chain.runsFrom_concat_of_endsWithTerm hdivided hend]
    exact iff_of_true (Chain.exists_getLast?_pieces _) hend
  · rw [runs, Chain.runsFrom_concat_of_not_endsWithTerm hdivided hend]
    exact iff_of_false (fun ⟨run, hrun⟩ => Chain.getLast?_dropLast_pieces _ run hrun) hend

private theorem flatMap_terms_runs_of_endsWithTerm (h : EndsWithTerm pieces) :
    (operands (runs pieces)).flatMap Run.terms = operands pieces := by
  obtain ⟨stretches, rfl, hdivided⟩ := Chain.exists_isDivisionOf pieces
  rw [runs, Chain.runsFrom_concat_of_endsWithTerm hdivided h, List.flatMap_def,
    Chain.map_terms_stretchRuns, Chain.operands_concat, List.flatMap_def]

private theorem exists_runs_eq_singleton_iff :
    (∃ run, runs pieces = [.operand run]) ↔
      EndsWithTerm pieces ∧ ∀ op ∈ operators pieces, joiningOperator? pieces = some op := by
  constructor
  · rintro ⟨run, hruns⟩
    have hend : EndsWithTerm pieces := (getLast?_runs_iff pieces).1 ⟨run, by rw [hruns]; rfl⟩
    obtain ⟨stretches, rfl, hdivided⟩ := Chain.exists_isDivisionOf pieces
    refine ⟨hend, ?_⟩
    cases stretches with
    | last stretch => exact hdivided
    | link stretch op rest =>
      rw [runs, Chain.runsFrom_concat_of_endsWithTerm hdivided hend] at hruns
      exact absurd (congrArg operators hruns) (List.cons_ne_nil _ _)
  · rintro ⟨hend, htag⟩
    exact ⟨_, runsFrom_of_endsWithTerm htag hend []⟩

/-- What the runs of pieces without a term at the end hold stands before the last operator that
ended a stretch. -/
theorem runs_of_not_endsWithTerm (h : ¬ EndsWithTerm pieces) :
    (runs pieces = [] ∧ (Chain.last pieces).IsDivisionOf pieces) ∨
      ∃ (front : Chain Stretch) (op : Operator) (stretch : Stretch),
        (front.append op (.last stretch)).IsDivisionOf pieces ∧
        operators (runs pieces) = operators front.pieces ++ [op] ∧
        (operands (runs pieces)).flatMap Run.terms = operands front.concat := by
  obtain ⟨stretches, hconcat, hdivided⟩ := Chain.exists_isDivisionOf pieces
  rcases stretches.eq_last_or_eq_append with ⟨stretch, rfl⟩ | ⟨front, op, stretch, rfl⟩
  · obtain rfl : stretch = pieces := hconcat
    exact .inl ⟨runsFrom_of_not_endsWithTerm hdivided h [], rfl, hdivided⟩
  · refine .inr ⟨front, op, stretch, ⟨hconcat, hdivided⟩, ?_⟩
    rw [← hconcat] at h hdivided ⊢
    rw [runs, Chain.runsFrom_concat_of_not_endsWithTerm hdivided h]
    constructor
    · rw [Chain.operators_dropLast_pieces, Chain.operators_stretchRuns, Chain.pieces_append,
        operators, List.filterMap_append]
      rfl
    · have hstretches : operands (front.append op (.last stretch)).pieces =
          operands front.pieces ++ [stretch] := by
        rw [Chain.pieces_append, operands, List.filterMap_append]
        rfl
      rw [Chain.operands_dropLast_pieces, List.flatMap_def, List.map_dropLast,
        Chain.map_terms_stretchRuns, hstretches, List.map_append, List.map_singleton,
        List.dropLast_concat, ← List.flatMap_def, Chain.operands_concat]

end Runs

namespace Grouping

variable {pieces : List (Piece Text)}

private theorem ofSegments_joined_eq_single_iff {run : Run} :
    ofSegments (.joined pieces) = .single run ↔ runs pieces = [.operand run] := by
  rw [ofSegments]
  split
  · rename_i only hruns
    simp [hruns]
  · rename_i hruns
    exact iff_of_false Grouping.noConfusion (hruns run)

private theorem ofSegments_joined_eq (pieces : List (Piece Text)) :
    (∃ run, ofSegments (.joined pieces) = .single run ∧ runs pieces = [.operand run]) ∨
      ofSegments (.joined pieces) = .mixed (runs pieces) ∧ ∀ item, runs pieces ≠ [item] := by
  by_cases hsingle : ∃ run, runs pieces = [.operand run]
  · obtain ⟨run, hruns⟩ := hsingle
    exact .inl ⟨run, ofSegments_joined_eq_single_iff.2 hruns, hruns⟩
  · refine .inr ⟨?_, ?_⟩
    · rw [ofSegments]
      split
      · rename_i run hruns
        exact absurd ⟨run, hruns⟩ hsingle
      · rfl
    · rintro (run | op) hitem
      · exact hsingle ⟨run, hitem⟩
      · have hfirst : (runs pieces)[0]? = some (.operator op) := by
          rw [hitem]
          rfl
        have hoperand := (isAlternating_runs pieces 0 _ hfirst).2 rfl
        exact Bool.false_ne_true hoperand

/-- Grouping pieces in any order gives items of which one alone is a run, and then that run is the
result; an operator is never left alone. The items are runs and operators in turn, a run first, and
end with a run exactly if a term stands at the end. In that case no term is lost; otherwise the
terms that are kept are those before the last operator among the items, none if there is none. The
result is a single run exactly if a term stands at the end and every operator is the one at the
second place. -/
theorem ofSegments_joined_in_any_order (pieces : List (Piece Text)) :
    ∃ items : List (Piece Run),
      ((∃ run, ofSegments (.joined pieces) = .single run ∧ items = [.operand run]) ∨
        ofSegments (.joined pieces) = .mixed items ∧ ∀ item, items ≠ [item]) ∧
      IsAlternating items ∧
      ((∃ run, items.getLast? = some (.operand run)) ↔ EndsWithTerm pieces) ∧
      (EndsWithTerm pieces → (operands items).flatMap Run.terms = operands pieces) ∧
      (¬ EndsWithTerm pieces →
        (items = [] ∧ ofSegments (.joined pieces) = .mixed [] ∧
          (Chain.last pieces).IsDivisionOf pieces) ∨
        ∃ (front : Chain Stretch) (op : Operator) (stretch : Stretch),
          (front.append op (.last stretch)).IsDivisionOf pieces ∧
          pieces = front.concat ++ .operator op :: stretch ∧
          operators items = operators front.pieces ++ [op] ∧
          (operands items).flatMap Run.terms = operands front.concat) ∧
      ((∃ run, ofSegments (.joined pieces) = .single run) ↔
        EndsWithTerm pieces ∧ ∀ op ∈ operators pieces, joiningOperator? pieces = some op) := by
  refine ⟨runs pieces, ofSegments_joined_eq pieces, isAlternating_runs pieces,
    getLast?_runs_iff pieces, flatMap_terms_runs_of_endsWithTerm, ?_, ?_⟩
  · intro hend
    rcases runs_of_not_endsWithTerm hend with ⟨hitems, hdivision⟩ | ⟨front, op, stretch, h⟩
    · exact .inl ⟨hitems, by rw [ofSegments, hitems], hdivision⟩
    · obtain ⟨hdivision, hoperators, hterms⟩ := h
      have hpieces : pieces = front.concat ++ .operator op :: stretch := by
        rw [← hdivision.1, Chain.concat_append]
        rfl
      exact .inr ⟨front, op, stretch, hdivision, hpieces, hoperators, hterms⟩
  · simp only [ofSegments_joined_eq_single_iff, exists_runs_eq_singleton_iff]

theorem ofSegments_joined_c_lost :
    let pieces : List (Piece Text) :=
      [.operand ['a'], .operand ['b'], .operator .and, .operator .or, .operand ['c'], .operator .or]
    let longer := pieces ++ [.operand ['d']]
    (¬ EndsWithTerm pieces ∧ ∃ items, ofSegments (.joined pieces) = .mixed items ∧
      ∃ (front : Chain Stretch) (op : Operator) (stretch : Stretch),
        (front.append op (.last stretch)).IsDivisionOf pieces ∧
        operators items = operators front.pieces ++ [op] ∧
        (operands items).flatMap Run.terms = operands front.concat ∧
        operands front.concat = [['a'], ['b']]) ∧
      EndsWithTerm longer ∧ ∃ items, ofSegments (.joined longer) = .mixed items ∧
        (operands items).flatMap Run.terms = [['a'], ['b'], ['c'], ['d']] := by
  intro pieces longer
  have hend : ¬ EndsWithTerm pieces := by simp [pieces, EndsWithTerm]
  have hend' : EndsWithTerm longer := ⟨['d'], rfl⟩
  obtain ⟨items, hresult, -, -, -, hkept, hsingle⟩ := ofSegments_joined_in_any_order pieces
  obtain ⟨items', hresult', -, -, hall, -, hsingle'⟩ := ofSegments_joined_in_any_order longer
  refine ⟨⟨hend, items, ?_⟩, hend', items', ?_⟩
  · rcases hresult with ⟨run, hrun, -⟩ | ⟨hmixed, -⟩
    · exact absurd (hsingle.1 ⟨run, hrun⟩).1 hend
    · have hitems : items = [.operand ⟨none, [['a'], ['b']]⟩, .operator .and,
          .operand ⟨none, []⟩, .operator .or] := mixed.inj (hmixed.symm.trans rfl)
      rcases hkept hend with ⟨hempty, -⟩ | ⟨front, op, stretch, hdivision, -, hoperators, hterms⟩
      · exact absurd (hitems.symm.trans hempty) (List.cons_ne_nil _ _)
      · refine ⟨hmixed, front, op, stretch, hdivision, hoperators, hterms, ?_⟩
        rw [← hterms, hitems]
        rfl
  · rcases hresult' with ⟨run, hrun, -⟩ | ⟨hmixed, -⟩
    · exact absurd ((hsingle'.1 ⟨run, hrun⟩).2 .and (by decide)) (by decide)
    · exact ⟨hmixed, hall hend'⟩

end Grouping

end BooleanSearch
