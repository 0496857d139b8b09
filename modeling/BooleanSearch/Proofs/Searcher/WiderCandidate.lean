import BooleanSearch.Proofs.Condition.Monotone
import BooleanSearch.Proofs.Pattern.Occurrence
import BooleanSearch.Proofs.Searcher.Coherence

set_option autoImplicit false
set_option relaxedAutoImplicit false

namespace BooleanSearch

private theorem Pattern.matchesStart_append {pattern : Pattern} {text : Text}
    (h : pattern.matchesStart text) (after : Text) : pattern.matchesStart (text ++ after) := by
  fun_induction matchesStart pattern text with
  | case1 => simp [matchesStart]
  | case2 => simp at h
  | case3 a atoms c text ih =>
    rw [Bool.and_eq_true] at h
    rw [List.cons_append, matchesStart, Bool.and_eq_true]
    exact ⟨h.1, ih h.2⟩
  | case4 atoms c text ih =>
    rw [Bool.and_eq_true] at h
    rw [List.cons_append, matchesStart, Bool.and_eq_true]
    exact ⟨h.1, ih h.2⟩
  | case5 atoms c text hatoms ih ih' =>
    rw [Bool.and_eq_true, Bool.or_eq_true] at h
    rw [List.cons_append, matchesStart, Bool.and_eq_true, Bool.or_eq_true]
    · exact ⟨h.1, h.2.imp ih ih'⟩
    · exact hatoms

variable {candidate wider : Text}

private theorem Pattern.occursIn_of_infix {mode : CaseMode} {pattern : Pattern}
    (hwider : candidate <:+: wider)
    (h : pattern.occursIn mode candidate) : pattern.occursIn mode wider := by
  rw [occursIn, anywhere_map, anywhere_iff] at h ⊢
  obtain ⟨rest, hrest, hstart⟩ := h
  obtain ⟨before, after, rfl⟩ := hwider
  refine ⟨rest ++ after, ?_, ?_⟩
  · obtain ⟨skipped, rfl⟩ := hrest
    exact ⟨before ++ skipped, by simp⟩
  · rw [List.map_append]
    exact matchesStart_append hstart _

private theorem Condition.holds_of_infix (hwider : candidate <:+: wider) (condition : Condition)
    (h : condition.holds candidate) : condition.holds wider :=
  condition.holds_mono (fun _ _ _ => Pattern.occursIn_of_infix hwider) h

private theorem satisfies_of_infix {compiled : Except QueryError (Option Condition)}
    (hwider : candidate <:+: wider) (h : satisfies compiled candidate) :
    satisfies compiled wider := by
  refine satisfies_mono ?_ (fun condition _ => condition.holds_of_infix hwider) h
  rintro hne rfl
  exact hne (List.infix_nil.1 hwider)

namespace Searcher

/-- A candidate with more text before and after it satisfies every query that it satisfies alone, in
all states with the same options, and every condition. -/
theorem filter_append_of_filter [Engine] (candidate before after : Text) :
    (∀ searcher other : Searcher, searcher.IsReachable → other.IsReachable →
        other.options = searcher.options → ∀ query, (searcher.filter candidate query).1 = true →
          (other.filter (before ++ candidate ++ after) query).1 = true) ∧
      ∀ condition : Condition, condition.holds candidate = true →
        condition.holds (before ++ candidate ++ after) = true := by
  have hwider : candidate <:+: before ++ candidate ++ after := List.infix_append _ _ _
  refine ⟨?_, fun condition => condition.holds_of_infix hwider⟩
  intro searcher other hsearcher hother hoptions query h
  rw [hsearcher.isCoherent.filter_fst] at h
  rw [hother.isCoherent.filter_fst, hoptions]
  exact satisfies_of_infix hwider h

def callsThereAndBack : List Call :=
  [.setCaseMode .sensitive, .compile "a && b || c".toList, .setCaseMode .insensitive]

theorem filter_x_y_around_candidate :
    let searcher : Searcher := {}
    let other := searcher.run callsThereAndBack
    searcher.IsReachable ∧ other.IsReachable ∧ other.options = searcher.options ∧
      (searcher.filter "B a".toList "a && b || c".toList).1 = true ∧
      (other.filter (['x'] ++ "B a".toList ++ ['y']) "a && b || c".toList).1 = true := by
  intro searcher other
  have hsearcher : searcher.IsReachable := ⟨{}, [], rfl⟩
  have hother : other.IsReachable := ⟨{}, callsThereAndBack, rfl⟩
  have hoptions : other.options = searcher.options := by
    rw [run_options]
    rfl
  have htrim : trim "a && b || c".toList = "a && b || c".toList := by decide
  have hsplit : searcher.options.tokens.split "a && b || c".toList =
      .link ['a'] .and (.link ['b'] .or (.last ['c'])) := by decide +kernel
  have hfilter : (searcher.filter "B a".toList "a && b || c".toList).1 = true := by
    rw [hsearcher.isCoherent.filter_fst, Options.compile, htrim,
      Segments.ofText?_of_ne_nil (by decide), hsplit]
    rfl
  exact ⟨hsearcher, hother, hoptions, hfilter,
    (filter_append_of_filter _ ['x'] ['y']).1 searcher other hsearcher hother hoptions _ hfilter⟩

end Searcher

end BooleanSearch
