import BooleanSearch.Condition.Estimate
import BooleanSearch.Proofs.Condition.Compiled
import BooleanSearch.Proofs.Condition.LeftToRight
import BooleanSearch.Proofs.Query.Leftmost

/-!
# Sequences that queries compile to

A query of several runs compiles to a sequence of conditions with operators between them. Whichever
operators and verdicts are wanted, some query compiles to a sequence that has them. So folding runs
into conditions is not enough for the votes to say what joining from left to right says: that needs
operators of which no two differ.
-/

set_option autoImplicit false
set_option relaxedAutoImplicit false

namespace BooleanSearch

namespace Options

variable [Engine] {options : Options}

private theorem runCondition_ne_sequence (run : Run) (pieces : List (Piece Condition)) :
    options.runCondition run ≠ .ok (.sequence pieces) := by
  intro h
  rw [runCondition] at h
  split at h
  · exact Condition.noConfusion (build_eq_ok h)
  · exact Condition.noConfusion (build_eq_ok h)
  · exact Condition.noConfusion (build_eq_ok h)

private theorem exists_conditions_of_compile {query : Text} {pieces : List (Piece Condition)}
    (h : options.compile query = .ok (some (.sequence pieces))) :
    ∃ conditions : Chain Condition, conditions.pieces = pieces := by
  by_cases htrim : trim query = []
  · rw [compile_of_trim_eq_nil htrim] at h
    simp at h
  · rw [compile_of_trim_ne_nil htrim] at h
    obtain ⟨condition, hcondition, hsome⟩ := map_eq_ok_iff.1 h
    obtain rfl := Option.some.inj hsome
    cases hchain : options.tokens.split (trim query) with
    | last term =>
      rw [hchain] at hcondition
      exact Condition.noConfusion (build_eq_ok hcondition)
    | link term op rest =>
      rw [hchain, Segments.ofChain, Grouping.ofSegments_joined] at hcondition
      cases hruns : (Chain.link term op rest).runs with
      | last run =>
        rw [hruns] at hcondition
        exact absurd hcondition (runCondition_ne_sequence run pieces)
      | link run op' runs =>
        rw [hruns, condition_ofRuns_link] at hcondition
        obtain ⟨conditions, -, hsequence⟩ := map_eq_ok_iff.1 hcondition
        exact ⟨conditions, Condition.sequence.inj hsequence⟩

end Options

/-- The engine builds expressions of one character, or of two joined by an operator. -/
structure Engine.BuildsShort [Engine] (limit : Nat) : Prop where
  term : ∀ mode pattern, pattern.length ≤ 1 → Engine.builds limit (.term mode pattern)
  anyOf : ∀ mode first second, first.length ≤ 1 → second.length ≤ 1 →
    Engine.builds limit (.anyOf mode [first, second])
  allOf : ∀ mode first second, first.length ≤ 1 → second.length ≤ 1 →
    Engine.builds limit (.allOf mode [first, second])

private theorem Pattern.roughSize_le (mode : CaseMode) (pattern : Pattern) :
    pattern.roughSize mode ≤ 720 * pattern.length := by
  have hatom : ∀ atom : Atom, atom.roughSize mode ≤ 720 := by
    intro atom
    cases atom with
    | blanks => exact Nat.le_refl _
    | char c =>
      have hsize := Char.utf8Size_le_four c
      rw [Atom.roughSize]
      split <;> omega
  induction pattern with
  | nil => exact Nat.le_refl _
  | cons atom pattern ih =>
    have := hatom atom
    rw [roughSize, List.length_cons]
    omega

private theorem Engine.rough_buildsShort {limit : Nat} (h : 1440 ≤ limit) :
    Engine.BuildsShort limit := by
  have hsize : ∀ mode (pattern : Pattern), pattern.length ≤ 2 → pattern.roughSize mode ≤ limit := by
    intro mode pattern hlength
    have := Pattern.roughSize_le mode pattern
    omega
  have hpair : ∀ first second : Pattern, first.length ≤ 1 → second.length ≤ 1 →
      [first, second].flatten.length ≤ 2 := by
    intro first second hfirst hsecond
    simp
    omega
  refine ⟨fun mode pattern hpattern => ?_, fun mode first second hfirst hsecond => ?_,
    fun mode first second hfirst hsecond => ?_⟩
  · exact decide_eq_true (hsize mode pattern (by omega))
  · exact decide_eq_true (hsize mode _ (hpair first second hfirst hsecond))
  · exact decide_eq_true (hsize mode _ (hpair first second hfirst hsecond))

def sampleTerm : Bool → Text
  | true => ['x']
  | false => ['y']

def sampleCandidate : Text := ['x']

private theorem occurs_sampleTerm (verdict : Bool) :
    ({} : Options).occurs sampleCandidate (sampleTerm verdict) = verdict := by
  cases verdict <;> decide

namespace Chain

/-- Verdicts as runs of sample terms. A verdict that an operator follows needs a run of two terms,
and a tag other than the operator so that this closes the run. -/
def sampleRuns : Chain Bool → Chain Run
  | .last verdict => .last ⟨none, [sampleTerm verdict]⟩
  | .link verdict op rest =>
    .link ⟨some op.dual, [sampleTerm verdict, sampleTerm verdict]⟩ op rest.sampleRuns

def sampleTerms : Chain Bool → Chain Text
  | .last verdict => .last (sampleTerm verdict)
  | .link verdict op rest =>
    .link (sampleTerm verdict) op.dual (.link (sampleTerm verdict) op rest.sampleTerms)

private theorem runs_sampleTerms (verdicts : Chain Bool) :
    verdicts.sampleTerms.runs = verdicts.sampleRuns := by
  induction verdicts with
  | last verdict => rfl
  | link verdict op rest ih =>
    rw [sampleTerms, runs_link_link op.dual_ne, ih, sampleRuns]

private theorem map_verdict_sampleRuns {holds : Text → Bool}
    (h : ∀ verdict, holds (sampleTerm verdict) = verdict) (verdicts : Chain Bool) :
    verdicts.sampleRuns.map (Run.verdict holds) = verdicts := by
  induction verdicts with
  | last verdict => rw [sampleRuns, map, Run.verdict_singleton, h]
  | link verdict op rest ih =>
    have hverdict :
        (Run.mk (some op.dual) [sampleTerm verdict, sampleTerm verdict]).verdict holds =
          verdict := by
      cases op <;> simp [Run.verdict, joinedHold, Operator.dual, h]
    rw [sampleRuns, map, hverdict, ih]

private theorem exists_runCondition_sampleRuns [Engine]
    (h : Engine.BuildsShort ({} : Options).sizeLimit) (verdicts : Chain Bool) :
    ∀ run ∈ operands verdicts.sampleRuns.pieces,
      ∃ condition, ({} : Options).runCondition run = .ok condition := by
  have hshort : ∀ verdict, (Pattern.ofTerm (sampleTerm verdict)).length ≤ 1 := by decide
  induction verdicts with
  | last verdict =>
    intro run hrun
    obtain rfl := List.mem_singleton.1 hrun
    exact ⟨_, if_pos (h.term _ _ (hshort verdict))⟩
  | link verdict op rest ih =>
    rw [sampleRuns, operands_pieces_link, List.forall_mem_cons]
    refine ⟨?_, ih⟩
    cases op with
    | and => exact ⟨_, if_pos (h.anyOf _ _ _ (hshort verdict) (hshort verdict))⟩
    | or => exact ⟨_, if_pos (h.allOf _ _ _ (hshort verdict) (hshort verdict))⟩

private theorem isLeftmost_link_sampleTerm (verdict : Bool) (op : Operator) {rest : Chain Text}
    (h : rest.IsLeftmost .standard) : (link (sampleTerm verdict) op rest).IsLeftmost .standard := by
  refine ⟨?_, ?_, h⟩
  · intro n hn op'
    obtain rfl : n = 0 := by
      have hlength : (sampleTerm verdict).length = 1 := by cases verdict <;> rfl
      omega
    cases verdict <;> cases op' <;>
      simp [sampleTerm, render, Tokens.standard, Tokens.token, List.cons_prefix_cons]
  · cases op
    · exact iff_of_true rfl (List.prefix_append _ _)
    · refine iff_of_false (by decide) ?_
      simp [Tokens.standard, Tokens.token, List.cons_prefix_cons]

private theorem isLeftmost_sampleTerms (verdicts : Chain Bool) :
    verdicts.sampleTerms.IsLeftmost .standard := by
  induction verdicts with
  | last verdict =>
    intro op
    cases verdict <;> cases op <;> decide
  | link verdict op rest ih =>
    exact isLeftmost_link_sampleTerm verdict _ (isLeftmost_link_sampleTerm verdict op ih)

private theorem not_isBlank_of_mem_sampleTerm {verdict : Bool} {c : Char}
    (h : c ∈ sampleTerm verdict) : ¬ isBlank c := by
  cases verdict <;> obtain rfl := List.mem_singleton.1 h <;> decide

private theorem head?_render_sampleTerms (verdicts : Chain Bool) :
    ∃ verdict, (verdicts.sampleTerms.render .standard).head? = (sampleTerm verdict).head? := by
  cases verdicts with
  | last verdict => exact ⟨verdict, rfl⟩
  | link verdict op rest =>
    refine ⟨verdict, ?_⟩
    cases verdict <;> rfl

private theorem getLast?_render_sampleTerms (verdicts : Chain Bool) :
    ∃ verdict, (verdicts.sampleTerms.render .standard).getLast? =
      (sampleTerm verdict).getLast? := by
  induction verdicts with
  | last verdict => exact ⟨verdict, rfl⟩
  | link verdict op rest ih =>
    obtain ⟨last, hlast⟩ := ih
    refine ⟨last, ?_⟩
    have hsome : (sampleTerm last).getLast?.isSome := by cases last <;> rfl
    obtain ⟨c, hc⟩ := Option.isSome_iff_exists.1 hsome
    rw [hc] at hlast ⊢
    rw [sampleTerms, render, render]
    simp [List.getLast?_append, hlast]

private theorem trim_render_sampleTerms (verdicts : Chain Bool) :
    trim (verdicts.sampleTerms.render .standard) = verdicts.sampleTerms.render .standard := by
  obtain ⟨first, hfirst⟩ := head?_render_sampleTerms verdicts
  obtain ⟨last, hlast⟩ := getLast?_render_sampleTerms verdicts
  refine trim_eq_self (fun c hc => ?_) (fun c hc => ?_)
  · rw [hfirst] at hc
    exact not_isBlank_of_mem_sampleTerm (List.mem_of_mem_head? hc)
  · rw [hlast] at hc
    exact not_isBlank_of_mem_sampleTerm (List.mem_of_getLast? hc)

end Chain

namespace Options

private theorem compile_render_sampleTerms [Engine] (verdicts : Chain Bool) :
    ({} : Options).compile (verdicts.sampleTerms.render .standard) =
      some <$> ({} : Options).condition (.ofSegments (.ofChain verdicts.sampleTerms)) := by
  have htrim := verdicts.trim_render_sampleTerms
  have hne : verdicts.sampleTerms.render .standard ≠ [] := by
    cases verdicts with
    | last verdict => cases verdict <;> exact List.cons_ne_nil _ _
    | link verdict op rest => cases verdict <;> exact List.cons_ne_nil _ _
  have hsplit : ({} : Options).tokens.split (verdicts.sampleTerms.render .standard) =
      verdicts.sampleTerms := verdicts.isLeftmost_sampleTerms.split_render
  rw [compile_of_trim_ne_nil (by rwa [htrim]), htrim, hsplit]

/-- Any two or more verdicts with operators between them are those of some compiled query. -/
theorem exists_compile_eq_sequence [Engine] (h : Engine.BuildsShort ({} : Options).sizeLimit)
    (verdict : Bool) (op : Operator) (rest : Chain Bool) :
    ∃ (query : Text) (conditions : Chain Condition),
      ({} : Options).compile query = .ok (some (.sequence conditions.pieces)) ∧
        conditions.map (Condition.holds sampleCandidate) = .link verdict op rest := by
  let verdicts : Chain Bool := .link verdict op rest
  obtain ⟨conditions, hconditions⟩ :=
    Chain.exists_mapM_eq_ok (verdicts.exists_runCondition_sampleRuns h)
  refine ⟨verdicts.sampleTerms.render .standard, conditions, ?_, ?_⟩
  · have hgrouping : Grouping.ofSegments (.ofChain verdicts.sampleTerms) =
        .ofRuns verdicts.sampleRuns := by
      rw [← Chain.runs_sampleTerms]
      exact Grouping.ofSegments_joined verdicts.sampleTerms
    have hcondition : ({} : Options).condition (.ofRuns verdicts.sampleRuns) =
        .ok (.sequence conditions.pieces) := by
      change ({} : Options).condition (.ofRuns (.link _ op rest.sampleRuns)) = _
      rw [condition_ofRuns_link]
      exact map_eq_ok_iff.2 ⟨conditions, hconditions, rfl⟩
    rw [compile_render_sampleTerms, hgrouping, hcondition]
    rfl
  · have hholds : conditions.map (Condition.holds sampleCandidate) =
        verdicts.sampleRuns.map (Run.verdict (({} : Options).occurs sampleCandidate)) := by
      refine Chain.map_eq_map_of_mapM_eq_ok hconditions fun run hrun _ hcondition => ?_
      rw [← Chain.runs_sampleTerms] at hrun
      exact holds_of_runCondition (Chain.terms_ne_nil_of_mem_runsFrom hrun) hcondition _
    rw [hholds, Chain.map_verdict_sampleRuns occurs_sampleTerm]

/-- The sequences that queries compile to, with these operators between their conditions, are judged
as their verdicts joined from left to right exactly if no two of the operators differ. -/
theorem compile_sequence_eq_fromLeft_iff [Engine]
    (hbuilds : Engine.BuildsShort ({} : Options).sizeLimit) (ops : List Operator) :
    (∀ (options : Options) (query : Text) (pieces : List (Piece Condition)),
        options.compile query = .ok (some (.sequence pieces)) → operators pieces = ops →
          ∃ conditions : Chain Condition, conditions.pieces = pieces ∧ ∀ candidate,
            (Condition.sequence pieces).holds candidate =
              (conditions.map (Condition.holds candidate)).fromLeft) ↔
      ∀ a ∈ ops, ∀ b ∈ ops, a = b := by
  constructor
  · -- Some query has the verdicts on which votes and joining from left to right disagree.
    intro h
    refine Decidable.byContradiction fun hdiffer => ?_
    have hops : operators (Chain.dissent ops).pieces = ops := Chain.operators_pieces_contrast _ ops
    cases hdissent : Chain.dissent ops with
    | last verdict =>
      rw [hdissent, Chain.operators_pieces_last] at hops
      subst hops
      simp at hdiffer
    | link verdict op rest =>
      obtain ⟨query, conditions, hcompile, hverdicts⟩ :=
        exists_compile_eq_sequence hbuilds verdict op rest
      rw [← hdissent] at hverdicts
      have hsame : operators conditions.pieces = ops := by
        rw [← hops, ← hverdicts, Chain.operators_pieces_map]
      obtain ⟨conditions', hpieces, hholds⟩ := h {} query conditions.pieces hcompile hsame
      obtain rfl := Chain.pieces_injective hpieces
      have hjudged := hholds sampleCandidate
      rw [holds_sequence_pieces, hverdicts] at hjudged
      exact Chain.enoughVotes_dissent_ne hdiffer hjudged
  · intro h options query pieces hcompile hops
    obtain ⟨conditions, rfl⟩ := exists_conditions_of_compile hcompile
    refine ⟨conditions, rfl, fun candidate => ?_⟩
    rw [holds_sequence_pieces]
    exact (Chain.enoughVotes_eq_fromLeft_iff ops).2 h _ (by rw [Chain.operators_pieces_map, hops])

theorem compile_sequence_or_and_ne_fromLeft :
    Engine.BuildsShort ({} : Options).sizeLimit ∧
      ¬ ∀ (options : Options) (query : Text) (pieces : List (Piece Condition)),
        options.compile query = .ok (some (.sequence pieces)) → operators pieces = [.or, .and] →
          ∃ conditions : Chain Condition, conditions.pieces = pieces ∧ ∀ candidate,
            (Condition.sequence pieces).holds candidate =
              (conditions.map (Condition.holds candidate)).fromLeft := by
  have hbuilds : Engine.BuildsShort ({} : Options).sizeLimit := Engine.rough_buildsShort (by decide)
  have hdiffer : ¬ ∀ a ∈ [Operator.or, .and], ∀ b ∈ [Operator.or, .and], a = b := by decide
  exact ⟨hbuilds, mt (compile_sequence_eq_fromLeft_iff hbuilds [.or, .and]).1 hdiffer⟩

/-- The first two runs hold and outvote the third, which is joined by AND and does not hold. -/
theorem compile_sequence_ne_fromLeft :
    ∃ conditions : Chain Condition,
      ({} : Options).compile "a && b || c || d && e".toList =
          .ok (some (.sequence conditions.pieces)) ∧
        (Condition.sequence conditions.pieces).holds "a b c".toList = true ∧
        (conditions.map (Condition.holds "a b c".toList)).fromLeft = false := by
  let conditions : Chain Condition :=
    .link (.allOf .insensitive [.ofTerm ['a'], .ofTerm ['b']]) .or
      (.link (.anyOf .insensitive [.ofTerm ['c'], .ofTerm ['d']]) .and
        (.last (.term .insensitive (.ofTerm ['e']))))
  have htrim : trim "a && b || c || d && e".toList = "a && b || c || d && e".toList := by decide
  have hsplit : ({} : Options).tokens.split "a && b || c || d && e".toList =
      .link ['a'] .and (.link ['b'] .or (.link ['c'] .or (.link ['d'] .and (.last ['e'])))) :=
    Chain.split_eq_iff.2 ⟨by decide, by decide⟩
  refine ⟨conditions, ?_, by decide, by decide⟩
  rw [compile_of_trim_ne_nil (by decide), htrim, hsplit]
  rfl

end Options

end BooleanSearch
