import BooleanSearch.Proofs.Condition.LeftToRight
import BooleanSearch.Proofs.Pattern.Occurrence
import BooleanSearch.Proofs.Query.ChainOfRuns
import BooleanSearch.Query.Compile

set_option autoImplicit false
set_option relaxedAutoImplicit false

namespace BooleanSearch

section Results

variable {ε α β γ : Type}

theorem bind_eq_ok_iff {x : Except ε α} {f : α → Except ε β} {b : β} :
    x >>= f = .ok b ↔ ∃ a, x = .ok a ∧ f a = .ok b := by
  cases x <;> simp [bind, Except.bind]

theorem map_eq_ok_iff {x : Except ε α} {f : α → β} {b : β} :
    f <$> x = .ok b ↔ ∃ a, x = .ok a ∧ f a = b := by
  cases x <;> simp [Functor.map, Except.map]

theorem map_eq_error_iff {x : Except ε α} {f : α → β} {e : ε} :
    f <$> x = .error e ↔ x = .error e := by
  cases x <;> simp [Functor.map, Except.map]

theorem exists_eq_ok_of_isOk {x : Except ε α} (h : x.isOk) : ∃ a, x = .ok a := by
  cases x with
  | ok a => exact ⟨a, rfl⟩
  | error e => exact absurd h Bool.false_ne_true

namespace Chain

def mapM {m : Type → Type} [Monad m] (f : α → m β) : Chain α → m (Chain β)
  | .last value => return .last (← f value)
  | .link value op rest => do
    let value ← f value
    return .link value op (← rest.mapM f)

private theorem mapM_pieces {m : Type → Type} [Monad m] [LawfulMonad m] (f : α → m β)
    (chain : Chain α) :
    chain.pieces.mapM (Piece.mapM f) = pieces <$> chain.mapM f := by
  induction chain with
  | last value => simp [pieces, mapM, Piece.mapM]
  | link value op rest ih => simp [pieces, mapM, Piece.mapM, ih]

theorem map_eq_map_of_mapM_eq_ok {f : α → Except ε β} {g : β → γ} {k : α → γ} {chain : Chain α}
    {results : Chain β} (h : chain.mapM f = .ok results)
    (hk : ∀ a ∈ operands chain.pieces, ∀ b, f a = .ok b → g b = k a) :
    results.map g = chain.map k := by
  induction chain generalizing results with
  | last value =>
    obtain ⟨b, hb, hresults⟩ := bind_eq_ok_iff.1 h
    obtain rfl := Except.ok.inj hresults
    rw [map, map, hk value (by simp) b hb]
  | link value op rest ih =>
    obtain ⟨b, hb, h⟩ := bind_eq_ok_iff.1 h
    obtain ⟨results, hrest, hresults⟩ := bind_eq_ok_iff.1 h
    obtain rfl := Except.ok.inj hresults
    rw [operands_pieces_link, List.forall_mem_cons] at hk
    rw [map, map, hk.1 b hb, ih hrest hk.2]

theorem exists_mapM_eq_ok {f : α → Except ε β} {chain : Chain α}
    (h : ∀ a ∈ operands chain.pieces, ∃ b, f a = .ok b) :
    ∃ results, chain.mapM f = .ok results := by
  induction chain with
  | last value =>
    obtain ⟨b, hb⟩ := h value (by simp)
    exact ⟨.last b, bind_eq_ok_iff.2 ⟨b, hb, rfl⟩⟩
  | link value op rest ih =>
    rw [operands_pieces_link, List.forall_mem_cons] at h
    obtain ⟨b, hb⟩ := h.1
    obtain ⟨results, hrest⟩ := ih h.2
    exact ⟨.link b op results, bind_eq_ok_iff.2 ⟨b, hb, bind_eq_ok_iff.2 ⟨results, hrest, rfl⟩⟩⟩

end Chain

end Results

/-- Whether terms joined by this operator hold when it is known of each whether it does. Without an
operator there is one term. -/
def joinedHold (holds : Text → Bool) (joined : Option Operator) (terms : List Text) : Bool :=
  match joined with
  | some .and => terms.all holds
  | _ => terms.any holds

def Run.verdict (holds : Text → Bool) (run : Run) : Bool := joinedHold holds run.tag run.terms

theorem Run.verdict_singleton (holds : Text → Bool) (tag : Option Operator) (term : Text) :
    (Run.mk tag [term]).verdict holds = holds term := by
  rcases tag with - | op
  · simp [verdict, joinedHold]
  · cases op <;> simp [verdict, joinedHold]

theorem Run.verdict_some (holds : Text → Bool) (op : Operator) (terms : List Text) :
    (Run.mk (some op) terms).verdict holds = op.joinAll (terms.map holds) := by
  cases op <;> simp [verdict, joinedHold, Operator.joinAll]

def Options.occurs (options : Options) (candidate term : Text) : Bool :=
  decide (Occurs options.caseMode term candidate)

namespace Options

variable {options : Options} {condition : Condition}

private theorem occursIn_ofTerm (options : Options) (candidate term : Text) :
    (Pattern.ofTerm term).occursIn options.caseMode candidate = options.occurs candidate term := by
  rw [occurs, Bool.eq_iff_iff, decide_eq_true_iff]
  exact Pattern.occursIn_ofTerm_iff options.caseMode term candidate

variable [Engine]

theorem build_eq_ok {built : Condition} (h : options.build condition = .ok built) :
    built = condition := by
  rw [build] at h
  split at h
  · exact (Except.ok.inj h).symm
  · simp at h

private theorem holds_of_termCondition {term : Text}
    (h : options.termCondition term = .ok condition)
    (candidate : Text) : condition.holds candidate = options.occurs candidate term := by
  rw [build_eq_ok h, Condition.holds, occursIn_ofTerm]

theorem holds_of_runCondition {run : Run} (hrun : run.terms ≠ [])
    (h : options.runCondition run = .ok condition) (candidate : Text) :
    condition.holds candidate = run.verdict (options.occurs candidate) := by
  obtain ⟨tag, terms⟩ := run
  have hall : ∀ terms : List Text, (terms.map Pattern.ofTerm).all
      (·.occursIn options.caseMode candidate) = terms.all (options.occurs candidate) := by
    simp [List.all_map, Function.comp_def, occursIn_ofTerm]
  have hany : ∀ terms : List Text, (terms.map Pattern.ofTerm).any
      (·.occursIn options.caseMode candidate) = terms.any (options.occurs candidate) := by
    simp [List.any_map, Function.comp_def, occursIn_ofTerm]
  rw [runCondition] at h
  split at h
  · rename_i term hterms
    obtain rfl : terms = [term] := hterms
    rw [holds_of_termCondition h, Run.verdict_singleton]
  · rename_i htag _
    obtain rfl : tag = some .and := htag
    rw [build_eq_ok h, Condition.holds, hall]
    rfl
  · rename_i htag _
    have hempty : (terms.map Pattern.ofTerm).isEmpty = false := by simpa using hrun
    rw [build_eq_ok h, Condition.holds, hany, hempty, Bool.false_or, Run.verdict, joinedHold]
    simpa using htag

theorem condition_ofRuns_link (options : Options) (run : Run) (op : Operator) (rest : Chain Run) :
    options.condition (.ofRuns (.link run op rest)) =
      (fun conditions => Condition.sequence conditions.pieces) <$>
        (Chain.link run op rest).mapM options.runCondition := by
  rw [Grouping.ofRuns, Options.condition, Chain.mapM_pieces]
  cases (Chain.link run op rest).mapM options.runCondition <;> rfl

private theorem holds_of_condition_ofRuns {runs : Chain Run}
    (hruns : ∀ run ∈ operands runs.pieces, run.terms ≠ [])
    (h : options.condition (.ofRuns runs) = .ok condition) (candidate : Text) :
    condition.holds candidate =
      enoughVotes (runs.map (Run.verdict (options.occurs candidate))).pieces := by
  cases runs with
  | last run =>
    have hrun : run.terms ≠ [] := hruns run (by simp)
    rw [holds_of_runCondition hrun h, Chain.map, enoughVotes_last]
  | link run op rest =>
    rw [condition_ofRuns_link] at h
    obtain ⟨conditions, hconditions, rfl⟩ := map_eq_ok_iff.1 h
    have hverdicts : conditions.map (Condition.holds candidate) =
        (Chain.link run op rest).map (Run.verdict (options.occurs candidate)) :=
      Chain.map_eq_map_of_mapM_eq_ok hconditions fun run hrun _ hcondition =>
        holds_of_runCondition (hruns run hrun) hcondition candidate
    rw [holds_sequence_pieces, hverdicts]

/-- The condition of a chain of terms holds exactly if the runs that hold are enough votes. -/
theorem holds_of_condition {chain : Chain Text}
    (h : options.condition (.ofSegments (.ofChain chain)) = .ok condition) (candidate : Text) :
    condition.holds candidate =
      enoughVotes (chain.runs.map (Run.verdict (options.occurs candidate))).pieces := by
  cases chain with
  | last term =>
    have hruns : (Chain.last term).runs = .last ⟨none, [term]⟩ := rfl
    rw [holds_of_termCondition h, hruns, Chain.map, enoughVotes_last, Run.verdict_singleton]
  | link term op rest =>
    rw [Segments.ofChain, Grouping.ofSegments_joined] at h
    exact holds_of_condition_ofRuns (fun _ => Chain.terms_ne_nil_of_mem_runsFrom) h candidate

theorem holds_of_condition_ofSegments {segments : Segments} {chain : Chain Text}
    (hpieces : segments.pieces = chain.pieces)
    (h : options.condition (.ofSegments segments) = .ok condition) (candidate : Text) :
    condition.holds candidate =
      enoughVotes (chain.runs.map (Run.verdict (options.occurs candidate))).pieces := by
  cases segments with
  | lone term =>
    obtain rfl : Chain.last term = chain := Chain.pieces_injective hpieces
    exact holds_of_condition h candidate
  | joined pieces =>
    obtain rfl : pieces = chain.pieces := hpieces
    rw [Grouping.ofSegments_joined] at h
    exact holds_of_condition_ofRuns (fun _ => Chain.terms_ne_nil_of_mem_runsFrom) h candidate

theorem compile_of_trim_eq_nil {query : Text} (h : trim query = []) :
    options.compile query = .ok none := by
  simp [compile, h, Segments.ofText?]

theorem compile_of_trim_ne_nil {query : Text} (h : trim query ≠ []) :
    options.compile query =
      some <$> options.condition (.ofSegments (.ofChain (options.tokens.split (trim query)))) := by
  rw [compile, Segments.ofText?_of_ne_nil h]

end Options

end BooleanSearch
