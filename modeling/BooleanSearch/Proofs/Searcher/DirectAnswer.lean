import BooleanSearch.Proofs.Condition.Compiled
import BooleanSearch.Proofs.Query.Leftmost
import BooleanSearch.Proofs.Searcher.Coherence

set_option autoImplicit false
set_option relaxedAutoImplicit false

namespace BooleanSearch

structure Tally where
  held : Nat
  ands : Nat

/-- One run must hold, and one more for each AND. -/
def Tally.isEnough (tally : Tally) : Bool := 1 + tally.ands ≤ tally.held

/-- Count the runs of a chain of terms when some terms of the first run are read already and this
operator stands between them, if any does yet. -/
def Chain.tallyFrom (holds : Text → Bool) (joined : Option Operator) (terms : List Text) :
    Chain Text → Tally
  | .last term => ⟨(joinedHold holds joined (terms ++ [term])).toNat, 0⟩
  | .link term op rest =>
    if joined = none ∨ joined = some op then rest.tallyFrom holds (some op) (terms ++ [term])
    else
      let later := rest.tallyFrom holds none []
      ⟨(joinedHold holds joined (terms ++ [term])).toNat + later.held,
        (if op = .and then 1 else 0) + later.ands⟩

/-- The answer to a query, read from its cut. -/
def Options.directAnswer (options : Options) (query candidate : Text) : Bool :=
  if trim query = [] then true
  else if candidate = [] then false
  else
    ((options.tokens.split (trim query)).tallyFrom (options.occurs candidate) none []).isEnough

/-- The tally counts the votes of the runs, although it does not look ahead for their tags. -/
theorem Chain.tallyFrom_eq (holds : Text → Bool) (joined : Option Operator) (terms : List Text)
    (chain : Chain Text) :
    chain.tallyFrom holds joined terms =
      ⟨(operands ((chain.runsFrom (joined.or chain.firstOperator?) terms).map
          (Run.verdict holds)).pieces).count true,
        (operators (chain.runsFrom (joined.or chain.firstOperator?) terms).pieces).count .and⟩ := by
  -- The tag that was looked up ahead is the operator that joins the run, once one was read.
  induction chain generalizing joined terms with
  | last term =>
    rw [tallyFrom, firstOperator?, Option.or_none, runsFrom, map, operands_pieces_last,
      count_true_cons]
    rfl
  | link term op rest ih =>
    have hsame : (link term op rest).runsFrom (some op) terms =
        rest.runsFrom (some op) (terms ++ [term]) := if_pos rfl
    rcases joined with - | op'
    · rw [tallyFrom, if_pos (Or.inl rfl), ih, firstOperator?, Option.none_or, Option.some_or, hsame]
    · by_cases hop : op' = op
      · subst hop
        rw [tallyFrom, if_pos (Or.inr rfl), ih, Option.some_or, Option.some_or, hsame]
      · have hclosed : (link term op rest).runsFrom (some op') terms =
            .link ⟨some op', terms ++ [term]⟩ op (rest.runsFrom rest.firstOperator? []) :=
          if_neg (by simpa using hop)
        rw [tallyFrom, if_neg (by simpa using hop), ih, Option.some_or, Option.none_or, hclosed,
          map, operands_pieces_link, operators_pieces_link, count_true_cons, count_and_cons]
        rfl

private theorem Chain.isEnough_tallyFrom (holds : Text → Bool) (chain : Chain Text) :
    (chain.tallyFrom holds none []).isEnough =
      enoughVotes (chain.runs.map (Run.verdict holds)).pieces := by
  rw [tallyFrom_eq, Option.none_or, enoughVotes_pieces, operators_pieces_map]
  rfl

namespace Searcher

/-- In every state that calls lead to, a query that compiles is answered as its cut says. -/
theorem filter_eq_directAnswer [Engine] {searcher : Searcher} (hreachable : searcher.IsReachable)
    {query : Text} (hcompile : ∃ compiled, searcher.options.compile query = .ok compiled)
    (candidate : Text) :
    (searcher.filter candidate query).1 = searcher.options.directAnswer query candidate := by
  obtain ⟨compiled, hcompile⟩ := hcompile
  rw [hreachable.isCoherent.filter_fst, Options.directAnswer]
  by_cases htrim : trim query = []
  · rw [if_pos htrim, Options.compile_of_trim_eq_nil htrim]
    rfl
  · rw [if_neg htrim]
    rw [Options.compile_of_trim_ne_nil htrim] at hcompile ⊢
    obtain ⟨condition, hcondition, -⟩ := map_eq_ok_iff.1 hcompile
    rw [hcondition]
    change (!candidate.isEmpty && condition.holds candidate) = _
    by_cases hcandidate : candidate = []
    · rw [if_pos hcandidate, hcandidate]
      rfl
    · rw [if_neg hcandidate, Chain.isEnough_tallyFrom, Options.holds_of_condition hcondition]
      simp [hcandidate]

def lookupsAroundTokenChange : List Call :=
  [.compile "a&b|c|d&e".toList, .replaceTokens (some ['&']) (some ['|']),
    .filter "E".toList "a&b|c|d&e".toList]

private theorem optionsAfter_lookupsAroundTokenChange :
    (({} : Searcher).run lookupsAroundTokenChange).options =
      { tokens := ⟨['&'], ['|'], by decide, by decide⟩ } := by
  rw [run_options]
  rfl

theorem filter_after_token_change :
    let searcher := ({} : Searcher).run lookupsAroundTokenChange
    searcher.IsReachable ∧
      (∃ compiled, searcher.options.compile "a&b|c|d&e".toList = .ok compiled) ∧
      (searcher.filter "C B A".toList "a&b|c|d&e".toList).1 = true := by
  intro searcher
  have hreachable : searcher.IsReachable := ⟨{}, lookupsAroundTokenChange, rfl⟩
  have hoptions : searcher.options = { tokens := ⟨['&'], ['|'], by decide, by decide⟩ } :=
    optionsAfter_lookupsAroundTokenChange
  have htrim : trim "a&b|c|d&e".toList = "a&b|c|d&e".toList := by decide
  have hcut : (Tokens.mk ['&'] ['|'] (by decide) (by decide)).split "a&b|c|d&e".toList =
      .link ['a'] .and (.link ['b'] .or (.link ['c'] .or (.link ['d'] .and (.last ['e'])))) :=
    Chain.split_eq_iff.2 ⟨by decide, by decide⟩
  have hcompile : ∃ compiled, searcher.options.compile "a&b|c|d&e".toList = .ok compiled := by
    rw [hoptions, Options.compile_of_trim_ne_nil (by decide), htrim, hcut]
    exact ⟨_, rfl⟩
  refine ⟨hreachable, hcompile, ?_⟩
  rw [filter_eq_directAnswer hreachable hcompile, hoptions, Options.directAnswer, htrim,
    if_neg (by decide), if_neg (by decide), hcut]
  decide

end Searcher

end BooleanSearch
