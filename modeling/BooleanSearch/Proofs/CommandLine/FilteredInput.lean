import BooleanSearch.Proofs.CommandLine.Accepted
import BooleanSearch.Proofs.CommandLine.Lines

/-!
# Filtering the input

A search asks one searcher about every line of the input, and the searcher changes when it is asked
for the first time. Its answers do not change, so each line is judged by itself: what is printed for
an input is what is printed for its parts, as far as the first line that is not UTF-8.
-/

set_option autoImplicit false
set_option relaxedAutoImplicit false

namespace BooleanSearch

/-- The input is lines, these texts in UTF-8 first; the first line after them, if there is one, is
not UTF-8. -/
structure HoldsLines (input : List UInt8) (texts : List Text) (rest : List (List UInt8)) :
    Prop where
  areLines : AreLines input (texts.map utf8 ++ rest)
  head_ne_utf8 : ∀ line ∈ rest.head?, ∀ text, utf8 text ≠ line

def HasUnreadableLine (input : List UInt8) : Prop :=
  ∃ lines, AreLines input lines ∧ ∃ line ∈ lines, ∀ text, utf8 text ≠ line

def unreadableMessage : Text := "error: stream did not contain valid UTF-8\n".toList

section Output

private theorem unlines_eq_nil_iff {lines : List Text} : unlines lines = [] ↔ lines = [] := by
  cases lines <;> simp [unlines]

private theorem unlines_append (lines later : List Text) :
    unlines (lines ++ later) = unlines lines ++ unlines later := List.flatMap_append

private theorem utf8_unlines (lines : List Text) :
    utf8 (unlines lines) = lines.flatMap (utf8 · ++ [10]) := by
  have hline : ∀ line : Text, utf8 (line ++ ['\n']) = utf8 line ++ [10] := by
    intro line
    rw [utf8, List.flatMap_append]
    rfl
  rw [unlines, utf8, List.flatMap_assoc]
  exact congrArg lines.flatMap (funext hline)

end Output

namespace Searcher

variable [Engine] {searcher : Searcher}

/-- The candidates kept so far, the latest first, and the searcher, after one more candidate. -/
def filterStep (query : Text) (state : List Text × Searcher) (candidate : Text) :
    List Text × Searcher :=
  let (satisfied, searcher) := state.2.filter candidate query
  (if satisfied then candidate :: state.1 else state.1, searcher)

private theorem filterEach_eq_foldl (searcher : Searcher) (candidates : List Text) (query : Text) :
    (searcher.filterEach candidates query).1 =
      (candidates.foldl (filterStep query) ([], searcher)).1.reverse := rfl

private theorem IsCoherent.filterStep_eq (h : searcher.IsCoherent) (query : Text) (kept : List Text)
    (candidate : Text) : filterStep query (kept, searcher) candidate =
      (if satisfies (searcher.options.compile query) candidate then candidate :: kept else kept,
        (searcher.compile query).2) := by
  rw [← h.filter_fst]
  rfl

private theorem IsCoherent.foldl_filterStep (h : searcher.IsCoherent) (query : Text)
    (kept : List Text)
    (candidates : List Text) : (candidates.foldl (filterStep query) (kept, searcher)).1 =
      (candidates.filter (satisfies (searcher.options.compile query))).reverse ++ kept := by
  induction candidates generalizing searcher kept with
  | nil => rfl
  | cons candidate candidates ih =>
    rw [List.foldl_cons, h.filterStep_eq, ih (h.compile_snd query), compile_options]
    by_cases hsatisfied : satisfies (searcher.options.compile query) candidate
    · rw [if_pos hsatisfied, List.filter_cons_of_pos hsatisfied, List.reverse_cons,
        List.append_assoc, List.singleton_append]
    · rw [if_neg hsatisfied, List.filter_cons_of_neg hsatisfied]

private theorem IsCoherent.filterEach_fst (h : searcher.IsCoherent) (candidates : List Text)
    (query : Text) : (searcher.filterEach candidates query).1 =
      candidates.filter fun candidate => (searcher.filter candidate query).1 := by
  rw [filterEach_eq_foldl, h.foldl_filterStep, List.append_nil, List.reverse_reverse]
  exact List.filter_congr fun candidate _ => (h.filter_fst candidate query).symm

end Searcher

private theorem filterLines_eq_ite [Engine] (searcher : Searcher) (query : Text)
    (input : List UInt8) :
    let lines := (byteLines input).map decodeLine?
    let kept := (searcher.filterEach ((lines.takeWhile Option.isSome).filterMap id) query).1
    filterLines searcher query input =
      if lines.all Option.isSome then ⟨if kept = [] then 1 else 0, unlines kept, []⟩
      else ⟨1, unlines kept, unreadableMessage⟩ := rfl

section Input

variable {input later : List UInt8} {texts others : List Text} {rest : List (List UInt8)}

private theorem exists_holdsLines (input : List UInt8) :
    ∃ texts rest, HoldsLines input texts rest := by
  have hsplit : ∀ lines : List (List UInt8), ∃ texts rest, lines = List.map utf8 texts ++ rest ∧
      ∀ line ∈ rest.head?, ∀ text, utf8 text ≠ line := by
    intro lines
    induction lines with
    | nil => exact ⟨[], [], rfl, fun _ hline => absurd hline (by simp)⟩
    | cons line lines ih =>
      by_cases hline : ∃ text, utf8 text = line
      · obtain ⟨text, rfl⟩ := hline
        obtain ⟨texts, rest, rfl, hrest⟩ := ih
        exact ⟨text :: texts, rest, rfl, hrest⟩
      · refine ⟨[], line :: lines, rfl, fun head hhead text htext => hline ⟨text, ?_⟩⟩
        exact htext.trans (Option.some.inj hhead).symm
  obtain ⟨lines, hlines⟩ := exists_areLines input
  obtain ⟨texts, rest, rfl, hrest⟩ := hsplit lines
  exact ⟨texts, rest, hlines, hrest⟩

namespace HoldsLines

private theorem hasUnreadableLine_iff (h : HoldsLines input texts rest) :
    HasUnreadableLine input ↔ rest ≠ [] := by
  constructor
  · rintro ⟨lines, hlines, line, hmem, hline⟩ rfl
    have heq : lines = texts.map utf8 ++ [] :=
      hlines.byteLines_eq.symm.trans h.areLines.byteLines_eq
    rw [heq, List.append_nil] at hmem
    obtain ⟨text, -, htext⟩ := List.mem_map.1 hmem
    exact hline text htext
  · intro hne
    obtain ⟨line, rest, rfl⟩ := List.exists_cons_of_ne_nil hne
    exact ⟨_, h.areLines, line, by simp, h.head_ne_utf8 line rfl⟩

private theorem append (h : HoldsLines input texts []) (hend : EndsLine input)
    (hlater : HoldsLines later others rest) :
    HoldsLines (input ++ later) (texts ++ others) rest := by
  have hlines := h.areLines
  rw [List.append_nil] at hlines
  have hboth := hlines.append hend hlater.areLines
  rw [← List.append_assoc, ← List.map_append] at hboth
  exact ⟨hboth, hlater.head_ne_utf8⟩

private theorem append_of_ne_nil (h : HoldsLines input texts rest) (hne : rest ≠ [])
    (hend : EndsLine input) (later : List UInt8) :
    ∃ more, rest ++ more ≠ [] ∧ HoldsLines (input ++ later) texts (rest ++ more) := by
  obtain ⟨more, hmore⟩ := exists_areLines later
  have hboth := h.areLines.append hend hmore
  rw [List.append_assoc] at hboth
  refine ⟨more, List.append_ne_nil_of_left_ne_nil hne more, hboth, ?_⟩
  obtain ⟨line, rest, rfl⟩ := List.exists_cons_of_ne_nil hne
  exact h.head_ne_utf8

private theorem filterLines_eq [Engine] (h : HoldsLines input texts rest) (searcher : Searcher)
    (query : Text) :
    let kept := (searcher.filterEach texts query).1
    filterLines searcher query input =
      ⟨if rest = [] ∧ kept ≠ [] then 0 else 1, unlines kept,
        if rest = [] then [] else unreadableMessage⟩ := by
  have hread : (byteLines input).map decodeLine? = texts.map some ++ rest.map decodeLine? := by
    rw [h.areLines.byteLines_eq, List.map_append, List.map_map]
    exact congrArg (· ++ _) (List.map_congr_left fun text _ => decodeLine?_utf8 text)
  have hstop : (rest.map decodeLine?).takeWhile Option.isSome = [] := by
    cases rest with
    | nil => rfl
    | cons line rest =>
      have hline : decodeLine? line = none := decodeLine?_eq_none_iff.2 (h.head_ne_utf8 line rfl)
      rw [List.map_cons, hline]
      rfl
  have hreadable : (((byteLines input).map decodeLine?).takeWhile Option.isSome).filterMap id =
      texts := by
    rw [hread, List.takeWhile_append_of_pos (by simp), hstop, List.append_nil, List.filterMap_map]
    exact List.filterMap_some
  have hall : ((byteLines input).map decodeLine?).all Option.isSome ↔ rest = [] := by
    rw [hread, List.all_append]
    cases rest with
    | nil => simp
    | cons line rest =>
      have hline : decodeLine? line = none := decodeLine?_eq_none_iff.2 (h.head_ne_utf8 line rfl)
      simp [hline]
  intro kept
  rw [filterLines_eq_ite, hreadable]
  by_cases hrest : rest = []
  · rw [if_pos (hall.2 hrest), if_pos hrest]
    by_cases hkept : kept = []
    · rw [if_pos hkept, if_neg fun hboth => hboth.2 hkept]
    · rw [if_neg hkept, if_pos ⟨hrest, hkept⟩]
  · rw [if_neg (mt hall.1 hrest), if_neg hrest, if_neg fun hboth => hrest hboth.1]

end HoldsLines

end Input

def Settings.passes [Engine] (settings : Settings) (query line : Text) : Bool :=
  (settings.searcher.filter line query).1

namespace Request

variable {settings : Settings} {query : Text} {input : List UInt8} {texts : List Text}
  {rest : List (List UInt8)}

private theorem outcome_search_eq [Engine] (h : settings.explain = false)
    (hinput : HoldsLines input texts rest) :
    let kept := texts.filter (settings.passes query)
    (search settings query).outcome input =
      ⟨if rest = [] ∧ kept ≠ [] then 0 else 1, unlines kept,
        if rest = [] then [] else unreadableMessage⟩ := by
  have hreachable : settings.searcher.IsReachable := ⟨{}, _, settings.searcher_eq_run.symm⟩
  have hlines := hinput.filterLines_eq settings.searcher query
  rw [hreachable.isCoherent.filterEach_fst] at hlines
  have hprints : ¬ settings.explain = true := Bool.eq_false_iff.1 h
  rw [outcome, if_neg hprints]
  exact hlines

private theorem output_search_ne_nil_iff [Engine] (h : settings.explain = false)
    (hinput : HoldsLines input texts rest) :
    ((search settings query).outcome input).output ≠ [] ↔
      texts.filter (settings.passes query) ≠ [] := by
  rw [outcome_search_eq h hinput]
  exact not_congr unlines_eq_nil_iff

private theorem code_search_eq_zero_iff [Engine] (h : settings.explain = false)
    (hinput : HoldsLines input texts rest) :
    ((search settings query).outcome input).code = 0 ↔
      rest = [] ∧ texts.filter (settings.passes query) ≠ [] := by
  rw [outcome_search_eq h hinput]
  split
  · exact iff_of_true rfl ‹_›
  · exact iff_of_false Nat.one_ne_zero ‹_›

/-- A search prints the lines of the input, in order, that the searcher says yes to, as far as the
first line that is not UTF-8, and succeeds exactly if there is no such line and something is
printed. So input after an ended line is filtered by itself, unless a line before it is not UTF-8:
then it is not looked at. -/
theorem outcome_search_line_by_line [Engine] (settings : Settings) (query : Text)
    (h : settings.explain = false) :
    let outcome := fun input => (search settings query).outcome input
    (∀ input, ∃ texts rest, HoldsLines input texts rest) ∧
      (∀ input texts rest, HoldsLines input texts rest →
        let kept := texts.filter fun line => (settings.searcher.filter line query).1
        (outcome input).output = unlines kept ∧
          utf8 (outcome input).output = kept.flatMap (utf8 · ++ [10]) ∧
          (outcome input).code = if rest = [] ∧ kept ≠ [] then 0 else 1) ∧
      ∀ input later, EndsLine input →
        (¬ HasUnreadableLine input →
          (outcome (input ++ later)).output = (outcome input).output ++ (outcome later).output ∧
            ((outcome (input ++ later)).code = 0 ↔ ¬ HasUnreadableLine later ∧
              ((outcome input).output ≠ [] ∨ (outcome later).output ≠ []))) ∧
        (HasUnreadableLine input → outcome (input ++ later) = outcome input) := by
  intro outcome
  refine ⟨exists_holdsLines, ?_, ?_⟩
  · intro input texts rest hinput kept
    have houtcome : outcome input = _ := outcome_search_eq h hinput
    rw [houtcome]
    exact ⟨rfl, utf8_unlines kept, rfl⟩
  · intro input later hend
    obtain ⟨texts, rest, hinput⟩ := exists_holdsLines input
    obtain ⟨others, rest', hlater⟩ := exists_holdsLines later
    have hfirst : outcome input = _ := outcome_search_eq h hinput
    have hsecond : outcome later = _ := outcome_search_eq h hlater
    rw [hinput.hasUnreadableLine_iff, hlater.hasUnreadableLine_iff, not_not, not_not]
    constructor
    · rintro rfl
      have hlines := hinput.append hend hlater
      have hboth : outcome (input ++ later) = _ := outcome_search_eq h hlines
      constructor
      · rw [hboth, hfirst, hsecond, List.filter_append]
        exact unlines_append _ _
      · rw [code_search_eq_zero_iff h hlines, output_search_ne_nil_iff h hinput,
          output_search_ne_nil_iff h hlater, List.filter_append, ne_eq, List.append_eq_nil_iff,
          not_and_or]
    · intro hne
      obtain ⟨more, hmore, hlines⟩ := hinput.append_of_ne_nil hne hend later
      have hboth : outcome (input ++ later) = _ := outcome_search_eq h hlines
      rw [hboth, hfirst, if_neg hmore, if_neg hne, if_neg fun hall => hmore hall.1,
        if_neg fun hall => hne hall.1]

theorem outcome_search_a_in_lines :
    let settings : Settings := {}
    let query := ['a']
    let outcome := fun input => (search settings query).outcome input
    let input := [97, 13, 10, 98, 10]
    let later := [120, 97, 10, 255, 10, 97, 10]
    settings.explain = false ∧
      (HoldsLines input [['a'], ['b']] [] ∧ (outcome input).output = ['a', '\n'] ∧
        (outcome input).code = 0) ∧
      (EndsLine input ∧ ¬ HasUnreadableLine input ∧
        (outcome (input ++ later)).output = (outcome input).output ++ (outcome later).output) ∧
      EndsLine later ∧ HasUnreadableLine later ∧ outcome (later ++ input) = outcome later := by
  intro settings query outcome input later
  have hinput : HoldsLines input [['a'], ['b']] [] :=
    ⟨areLines_iff.2 (by decide), fun _ hline => absurd hline (by simp)⟩
  have hend : EndsLine input := .inr rfl
  have hreadable : ¬ HasUnreadableLine input := fun h => hinput.hasUnreadableLine_iff.1 h rfl
  have hend' : EndsLine later := .inr rfl
  have hunreadable : HasUnreadableLine later :=
    ⟨[[120, 97], [255], [97]], areLines_iff.2 (by decide), [255], by decide,
      decodeLine?_eq_none_iff.1 (by decide +kernel)⟩
  have hkept : ([['a'], ['b']].filter fun line => (settings.searcher.filter line query).1) =
      [['a']] := by decide +kernel
  obtain ⟨-, hprinted, hparts⟩ := outcome_search_line_by_line settings query rfl
  obtain ⟨houtput, -, hcode⟩ := hprinted input _ _ hinput
  rw [hkept] at houtput hcode
  obtain ⟨hboth, -⟩ := (hparts input later hend).1 hreadable
  exact ⟨rfl, ⟨hinput, houtput, hcode⟩, ⟨hend, hreadable, hboth⟩, hend', hunreadable,
    (hparts later input hend').2 hunreadable⟩

end Request

end BooleanSearch
