import BooleanSearch.Query.Flattening

set_option autoImplicit false
set_option relaxedAutoImplicit false

namespace BooleanSearch

namespace Chain

variable {α : Type}

def firstOperator? : Chain α → Option Operator
  | .last _ => none
  | .link _ op _ => some op

private theorem joiningOperator?_pieces (chain : Chain α) :
    joiningOperator? chain.pieces = chain.firstOperator? := by
  cases chain <;> rfl

/-- The runs of a chain when the first run is open with this tag and these terms. -/
def runsFrom (tag : Option Operator) (terms : List Text) : Chain Text → Chain Run
  | .last term => .last ⟨tag, terms ++ [term]⟩
  | .link term op rest =>
    if tag = some op then rest.runsFrom tag (terms ++ [term])
    else .link ⟨tag, terms ++ [term]⟩ op (rest.runsFrom rest.firstOperator? [])

def runs (chain : Chain Text) : Chain Run := chain.runsFrom chain.firstOperator? []

private theorem runsFrom_pieces (tag : Option Operator) (terms : List Text) (chain : Chain Text) :
    BooleanSearch.runsFrom tag terms chain.pieces = (chain.runsFrom tag terms).pieces := by
  induction chain generalizing tag terms with
  | last term => rfl
  | link term op rest ih =>
    simp only [pieces, BooleanSearch.runsFrom, runsFrom]
    split
    · exact ih tag (terms ++ [term])
    · rw [joiningOperator?_pieces, ih]
      rfl

theorem runs_pieces (chain : Chain Text) : BooleanSearch.runs chain.pieces = chain.runs.pieces := by
  rw [BooleanSearch.runs, joiningOperator?_pieces, runsFrom_pieces, runs]

theorem runs_link_link {op op' : Operator} (h : op ≠ op') (term next : Text) (rest : Chain Text) :
    (link term op (link next op' rest)).runs = .link ⟨some op, [term, next]⟩ op' rest.runs := by
  have hclosed : some op ≠ some op' := fun hop => h (Option.some.inj hop)
  rw [runs, firstOperator?, runsFrom, if_pos rfl, runsFrom, if_neg hclosed]
  rfl

private theorem flatMap_terms_runsFrom (tag : Option Operator) (terms : List Text)
    (chain : Chain Text) :
    (operands (chain.runsFrom tag terms).pieces).flatMap Run.terms =
      terms ++ operands chain.pieces := by
  induction chain generalizing tag terms with
  | last term => simp [runsFrom]
  | link term op rest ih =>
    rw [runsFrom]
    split
    · rw [ih, operands_pieces_link, List.append_assoc, List.singleton_append]
    · simp [ih]

private theorem flatMap_terms_runs (chain : Chain Text) :
    (operands chain.runs.pieces).flatMap Run.terms = operands chain.pieces :=
  flatMap_terms_runsFrom _ [] chain

theorem mem_of_mem_runs {chain : Chain Text} {run : Run} (hrun : run ∈ operands chain.runs.pieces)
    {term : Text} (hterm : term ∈ run.terms) : term ∈ operands chain.pieces := by
  rw [← flatMap_terms_runs]
  exact List.mem_flatMap.2 ⟨run, hrun, hterm⟩

theorem terms_ne_nil_of_mem_runsFrom {tag : Option Operator} {terms : List Text}
    {chain : Chain Text} {run : Run} (h : run ∈ operands (chain.runsFrom tag terms).pieces) :
    run.terms ≠ [] := by
  induction chain generalizing tag terms with
  | last term =>
    obtain rfl := List.mem_singleton.1 h
    simp
  | link term op rest ih =>
    rw [runsFrom] at h
    split at h
    · exact ih h
    · rcases List.mem_cons.1 h with rfl | h
      · simp
      · exact ih h

end Chain

namespace Grouping

def ofRuns : Chain Run → Grouping
  | .last run => .single run
  | .link run op rest => .mixed (Chain.link run op rest).pieces

theorem ofRuns_eq_single_iff {runs : Chain Run} {run : Run} :
    ofRuns runs = .single run ↔ runs = .last run := by
  cases runs <;> simp [ofRuns]

theorem ofSegments_joined (chain : Chain Text) :
    ofSegments (.joined chain.pieces) = ofRuns chain.runs := by
  rw [ofSegments, Chain.runs_pieces]
  cases chain.runs <;> rfl

end Grouping

end BooleanSearch
