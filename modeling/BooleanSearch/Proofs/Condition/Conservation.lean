import BooleanSearch.Condition.Estimate
import BooleanSearch.Proofs.Condition.Compiled
import BooleanSearch.Proofs.Query.Leftmost
import BooleanSearch.Proofs.Query.RegularGrouping
import BooleanSearch.Proofs.Searcher.Coherence

set_option autoImplicit false
set_option relaxedAutoImplicit false

namespace BooleanSearch

/-- Operands with the same operator between any two neighbours. -/
def joinedBy {α : Type} (op : Operator) (values : List α) : List (Piece α) :=
  (values.map Piece.operand).intersperse (.operator op)

theorem joinedBy_cons_cons {α : Type} (op : Operator) (first second : α) (rest : List α) :
    joinedBy op (first :: second :: rest) =
      .operand first :: .operator op :: joinedBy op (second :: rest) := rfl

private theorem joinedBy_map {α β : Type} (f : α → β) (op : Operator) (values : List α) :
    joinedBy op (values.map f) = (joinedBy op values).map (Piece.map f) := by
  induction values with
  | nil => rfl
  | cons first values ih =>
    cases values with
    | nil => rfl
    | cons second rest =>
      rw [List.map_cons] at ih
      rw [List.map_cons, List.map_cons, joinedBy_cons_cons, ih, joinedBy_cons_cons]
      rfl

namespace Condition

def fold (mode : CaseMode) (patterns : List Pattern) : Operator → Condition
  | .and => .allOf mode patterns
  | .or => .anyOf mode patterns

mutual

/-- The patterns and operators of a condition, from left to right. -/
def pieces : Condition → List (Piece Pattern)
  | .term _ pattern => [.operand pattern]
  | .anyOf _ patterns => joinedBy .or patterns
  | .allOf _ patterns => joinedBy .and patterns
  | .sequence pieces => piecesOf pieces

def piecesOf : List (Piece Condition) → List (Piece Pattern)
  | [] => []
  | .operand condition :: pieces => condition.pieces ++ piecesOf pieces
  | .operator op :: pieces => .operator op :: piecesOf pieces

end

theorem pieces_fold (mode : CaseMode) (patterns : List Pattern) (op : Operator) :
    (fold mode patterns op).pieces = joinedBy op patterns := by
  cases op
  · rw [fold, pieces]
  · rw [fold, pieces]

def IsFold : Condition → Prop
  | .anyOf _ patterns => 2 ≤ patterns.length
  | .allOf _ patterns => 2 ≤ patterns.length
  | _ => False

def IsSimple : Condition → Prop
  | .term _ _ => True
  | condition => condition.IsFold

private theorem isFold_fold {patterns : List Pattern} (h : 2 ≤ patterns.length) (mode : CaseMode)
    (op : Operator) : (fold mode patterns op).IsFold := by
  cases op
  · exact h
  · exact h

private theorem IsFold.isSimple {condition : Condition} (h : condition.IsFold) :
    condition.IsSimple := by
  cases condition with
  | term mode pattern => exact h.elim
  | anyOf mode patterns => exact h
  | allOf mode patterns => exact h
  | sequence pieces => exact h.elim

end Condition

/-- Every condition but the last is a fold, and the last one may also be one pattern. -/
def Chain.IsFolded : Chain Condition → Prop
  | .last condition => condition.IsSimple
  | .link condition _ rest => condition.IsFold ∧ rest.IsFolded

/-- A simple condition, or a sequence of several that are folded as far as they can be. -/
def Condition.IsRegular : Condition → Prop
  | .sequence pieces => ∃ first op rest,
    pieces = (Chain.link first op rest).pieces ∧ (Chain.link first op rest).IsFolded
  | condition => condition.IsSimple

private theorem Condition.IsSimple.isRegular {condition : Condition} (h : condition.IsSimple) :
    condition.IsRegular := by
  cases condition with
  | term mode pattern => exact h
  | anyOf mode patterns => exact h
  | allOf mode patterns => exact h
  | sequence pieces => exact h.elim

/-- The condition has the shape of a compiled one, and its patterns and operators are those of the
cut of the trimmed query. -/
def Condition.Keeps (condition : Condition) (tokens : Tokens) (query : Text) : Prop :=
  condition.IsRegular ∧ ∃ segments, Segments.ofText? tokens (trim query) = some segments ∧
    condition.pieces = segments.pieces.map (Piece.map Pattern.ofTerm)

namespace Options

variable [Engine] {options : Options} {condition : Condition}

theorem runCondition_singleton (options : Options) (tag : Option Operator) (term : Text) :
    options.runCondition ⟨tag, [term]⟩ = options.termCondition term := by
  rcases tag with - | op
  · rfl
  · cases op <;> rfl

theorem runCondition_cons_cons (options : Options) (op : Operator) (first second : Text)
    (rest : List Text) :
    options.runCondition ⟨some op, first :: second :: rest⟩ = options.build
      (.fold options.caseMode ((first :: second :: rest).map Pattern.ofTerm) op) := by
  cases op <;> rfl

private theorem eq_fold_of_runCondition {run : Run} (hrun : run.IsFull)
    (h : options.runCondition run = .ok condition) :
    condition.IsFold ∧ condition.pieces = run.pieces.map (Piece.map Pattern.ofTerm) := by
  obtain ⟨tag, terms⟩ := run
  obtain ⟨htag, hlength⟩ := hrun
  obtain ⟨op, rfl⟩ := Option.isSome_iff_exists.1 htag
  match terms, hlength with
  | first :: second :: rest, hlength =>
    rw [runCondition_cons_cons] at h
    rw [build_eq_ok h, Condition.pieces_fold, joinedBy_map]
    refine ⟨Condition.isFold_fold ?_ _ _, rfl⟩
    rwa [List.length_map]

private theorem isSimple_of_runCondition {run : Run} (hrun : (Chain.last run).IsRegular)
    (h : options.runCondition run = .ok condition) :
    condition.IsSimple ∧ condition.pieces = run.pieces.map (Piece.map Pattern.ofTerm) := by
  rcases hrun with hfull | ⟨htag, hlength⟩
  · obtain ⟨hfold, hpieces⟩ := eq_fold_of_runCondition hfull h
    exact ⟨hfold.isSimple, hpieces⟩
  · obtain ⟨tag, terms⟩ := run
    obtain ⟨term, rfl⟩ := List.length_eq_one_iff.1 hlength
    obtain rfl : tag = none := htag
    rw [runCondition_singleton] at h
    rw [build_eq_ok h, Condition.pieces]
    exact ⟨trivial, rfl⟩

private theorem isFolded_of_mapM {runs : Chain Run} (hruns : runs.IsRegular)
    {conditions : Chain Condition} (h : runs.mapM options.runCondition = .ok conditions) :
    conditions.IsFolded ∧ Condition.piecesOf conditions.pieces =
      (runs.pieces.flatMap Piece.flatten).map (Piece.map Pattern.ofTerm) := by
  induction runs generalizing conditions with
  | last run =>
    obtain ⟨condition, hcondition, hconditions⟩ := bind_eq_ok_iff.1 h
    obtain rfl := Except.ok.inj hconditions
    obtain ⟨hsimple, hpieces⟩ := isSimple_of_runCondition hruns hcondition
    refine ⟨hsimple, ?_⟩
    rw [Chain.pieces, Condition.piecesOf, Condition.piecesOf, List.append_nil, hpieces,
      Chain.pieces, List.flatMap_singleton, Piece.flatten]
  | link run op rest ih =>
    obtain ⟨condition, hcondition, h⟩ := bind_eq_ok_iff.1 h
    obtain ⟨conditions, hrest, hconditions⟩ := bind_eq_ok_iff.1 h
    obtain rfl := Except.ok.inj hconditions
    obtain ⟨hfull, -, hregular⟩ := hruns
    obtain ⟨hfold, hpieces⟩ := eq_fold_of_runCondition hfull hcondition
    obtain ⟨hfolded, hpiecesOf⟩ := ih hregular hrest
    refine ⟨⟨hfold, hfolded⟩, ?_⟩
    rw [Chain.pieces, Condition.piecesOf, Condition.piecesOf, hpieces, hpiecesOf, Chain.pieces,
      List.flatMap_cons, List.flatMap_cons, List.map_append, List.map_append]
    rfl

private theorem isRegular_of_condition {chain : Chain Text}
    (h : options.condition (.ofSegments (.ofChain chain)) = .ok condition) :
    condition.IsRegular ∧ condition.pieces = chain.pieces.map (Piece.map Pattern.ofTerm) := by
  cases chain with
  | last term =>
    have hterm := build_eq_ok h
    rw [hterm, Condition.pieces]
    exact ⟨trivial, rfl⟩
  | link term op rest =>
    have hregular := (Chain.link term op rest).isRegular_runs
    have hflatten := flatten_runs (.link term op rest)
    rw [Chain.runs_pieces] at hflatten
    rw [Segments.ofChain, Grouping.ofSegments_joined] at h
    rw [← hflatten]
    -- A single run is compiled without a sequence around it, so the runs decide the shape.
    cases hruns : (Chain.link term op rest).runs with
    | last run =>
      rw [hruns] at h hregular
      obtain ⟨hsimple, hpieces⟩ := isSimple_of_runCondition hregular h
      refine ⟨hsimple.isRegular, ?_⟩
      rw [hpieces, Chain.pieces, List.flatMap_singleton, Piece.flatten]
    | link run op' others =>
      rw [hruns, condition_ofRuns_link] at h
      rw [hruns] at hregular
      obtain ⟨conditions, hconditions, rfl⟩ := map_eq_ok_iff.1 h
      obtain ⟨hfolded, hpieces⟩ := isFolded_of_mapM hregular hconditions
      rw [Condition.pieces]
      refine ⟨?_, hpieces⟩
      obtain ⟨first, -, hothers⟩ := bind_eq_ok_iff.1 hconditions
      obtain ⟨later, -, hconditions⟩ := bind_eq_ok_iff.1 hothers
      obtain rfl := Except.ok.inj hconditions
      exact ⟨first, op', later, rfl, hfolded⟩

theorem keeps_of_compile {query : Text} (h : options.compile query = .ok (some condition)) :
    condition.Keeps options.tokens query := by
  by_cases htrim : trim query = []
  · rw [compile_of_trim_eq_nil htrim] at h
    exact absurd (Except.ok.inj h) (by simp)
  · rw [compile_of_trim_ne_nil htrim] at h
    obtain ⟨compiled, hcompiled, hsome⟩ := map_eq_ok_iff.1 h
    obtain rfl : compiled = condition := Option.some.inj hsome
    obtain ⟨hregular, hpieces⟩ := isRegular_of_condition hcompiled
    refine ⟨hregular, _, Segments.ofText?_of_ne_nil htrim, ?_⟩
    rw [hpieces]
    cases options.tokens.split (trim query) <;> rfl

end Options

/-- Every condition that a query compiles to has the shape of a compiled one and keeps the terms and
operators of the query, and so does every condition that a searcher remembers in a state that calls
lead to. -/
theorem Searcher.remembered_condition_keeps_query [Engine] :
    (∀ (options : Options) (query : Text) (condition : Condition),
      options.compile query = .ok (some condition) → condition.Keeps options.tokens query) ∧
    ∀ searcher : Searcher, searcher.IsReachable → ∀ (query : Text) (condition : Condition),
      (query, some condition) ∈ searcher.memo.entries →
        condition.Keeps searcher.options.tokens query := by
  constructor
  · intro options query condition h
    exact Options.keeps_of_compile h
  · intro searcher hreachable query condition hentry
    have hcompile := hreachable.isCoherent query (some condition) hentry
    exact Options.keeps_of_compile hcompile

def rememberedCondition : Condition :=
  .sequence [.operand (.anyOf .insensitive [.ofTerm ['a'], .ofTerm ['b']]), .operator .and,
    .operand (.term .insensitive (.ofTerm ['c', ' ', 'd']))]

theorem Searcher.remembered_fold_and_term :
    let query := "  a || b && c d ".toList
    let options : Options := {}
    let searcher := ({ options } : Searcher).run [.compile query]
    (options.compile query = .ok (some rememberedCondition) ∧
        rememberedCondition.Keeps options.tokens query) ∧
      searcher.IsReachable ∧ (query, some rememberedCondition) ∈ searcher.memo.entries ∧
      rememberedCondition.Keeps searcher.options.tokens query := by
  intro query options searcher
  have htrim : trim query = "a || b && c d".toList := by decide
  have hsplit : Tokens.standard.split "a || b && c d".toList =
      .link ['a'] .or (.link ['b'] .and (.last ['c', ' ', 'd'])) :=
    Chain.split_eq_iff.2 ⟨by decide, by decide⟩
  have hcompile : ({} : Options).compile query = .ok (some rememberedCondition) := by
    rw [Options.compile, htrim, Segments.ofText?_of_ne_nil (by decide), hsplit]
    rfl
  have hreachable : searcher.IsReachable := ⟨options, [.compile query], rfl⟩
  have hentry : (query, some rememberedCondition) ∈ searcher.memo.entries := by
    have hnew : ({ options } : Searcher).IsCoherent := isCoherent_of_entries_eq_nil rfl
    have hanswer : (({ options } : Searcher).compile query).1 = .ok (some rememberedCondition) := by
      rw [hnew.compile_fst, hcompile]
    exact mem_entries_compile hanswer
  obtain ⟨hcompiled, hremembered⟩ := remembered_condition_keeps_query
  exact ⟨⟨hcompile, hcompiled options query _ hcompile⟩, hreachable, hentry,
    hremembered searcher hreachable query _ hentry⟩

end BooleanSearch
