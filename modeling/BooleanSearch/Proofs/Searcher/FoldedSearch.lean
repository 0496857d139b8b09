import BooleanSearch.Proofs.Condition.Folded

set_option autoImplicit false
set_option relaxedAutoImplicit false

namespace BooleanSearch

namespace Options

private theorem satisfies_of_sensitive [Engine] {strict loose : Options} {query candidate : Text}
    (hstrict : strict.caseMode = .sensitive) (htokens : loose.tokens = strict.tokens)
    {compiled : Option Condition} (hcompile : loose.compile query = .ok compiled)
    (h : satisfies (strict.compile query) candidate) :
    satisfies (loose.compile query) candidate := by
  by_cases htrim : trim query = []
  · rw [compile_of_trim_eq_nil htrim]
    rfl
  · rw [compile_of_trim_ne_nil htrim] at hcompile h ⊢
    rw [htokens] at hcompile ⊢
    obtain ⟨asked, hasked, -⟩ := map_eq_ok_iff.1 hcompile
    -- The engine may refuse an expression under one mode only; the strict side then accepts
    -- nothing.
    cases hcondition : strict.condition
        (.ofSegments (.ofChain (strict.tokens.split (trim query)))) with
    | error error =>
      rw [hcondition] at h
      exact absurd h Bool.false_ne_true
    | ok condition =>
      rw [hcondition] at h
      change (!candidate.isEmpty && condition.holds candidate) = true at h
      rw [hasked]
      change (!candidate.isEmpty && asked.holds candidate) = true
      obtain rfl := (condition_eq_ok_iff.1 hcondition).2
      obtain rfl := (condition_eq_ok_iff.1 hasked).2
      rw [Bool.and_eq_true, Grouping.holds_condition] at h ⊢
      refine ⟨h.1, Grouping.isMet_mono (fun term hterm => ?_) h.2⟩
      rw [hstrict] at hterm
      exact termOccurs_of_sensitive _ hterm

end Options

namespace Searcher

private theorem IsReachable.filter_of_sensitive [Engine] {strict loose : Searcher}
    (hstrict : strict.IsReachable) (hloose : loose.IsReachable)
    (hmode : strict.options.caseMode = .sensitive)
    (htokens : loose.options.tokens = strict.options.tokens) {query : Text}
    {compiled : Option Condition} (hcompile : (loose.compile query).1 = .ok compiled)
    {candidate : Text} (h : (strict.filter candidate query).1 = true) :
    (loose.filter candidate query).1 = true := by
  rw [hloose.isCoherent.compile_fst] at hcompile
  rw [hstrict.isCoherent.filter_fst] at h
  rw [hloose.isCoherent.filter_fst]
  exact Options.satisfies_of_sensitive hmode htokens hcompile h

/-- Blanks fold to themselves and nothing else folds to a blank. Within the size limit, a grouping
holds without case exactly if the folded one holds with case in the folded candidate, so groupings
and candidates that fold alike are judged alike. A searcher that does not compare case finds
whatever one that does finds by the same query and tokens, so comparing it only takes candidates
away. -/
theorem search_without_case_eq_folded [Engine] :
    (∀ c, (isBlank c → fold c = c) ∧ isBlank (fold c) = isBlank c) ∧
    (∀ without strict : Options, without.caseMode = .insensitive → strict.caseMode = .sensitive →
      ∀ (grouping : Grouping) (asked folded : Condition), without.condition grouping = .ok asked →
        strict.condition (grouping.mapTerms foldText) = .ok folded →
          ∀ candidate, asked.holds candidate = folded.holds (foldText candidate)) ∧
    (∀ without : Options, without.caseMode = .insensitive →
      ∀ (grouping other : Grouping) (asked askedOther : Condition),
        grouping.mapTerms foldText = other.mapTerms foldText →
        without.condition grouping = .ok asked → without.condition other = .ok askedOther →
          ∀ candidate alike, foldText candidate = foldText alike →
            asked.holds candidate = askedOther.holds alike) ∧
    (∀ strict loose : Searcher, strict.IsReachable → loose.IsReachable →
      strict.options.caseMode = .sensitive → loose.options.tokens = strict.options.tokens →
        ∀ query compiled, (loose.compile query).1 = .ok compiled → ∀ candidate,
          (strict.filter candidate query).1 = true → (loose.filter candidate query).1 = true) ∧
    ∀ searcher : Searcher, searcher.IsReachable →
      ∀ query compiled, (searcher.compile query).1 = .ok compiled → ∀ candidate,
        ((searcher.setCaseMode .sensitive).filter candidate query).1 = true →
          (searcher.filter candidate query).1 = true := by
  have hfolded : ∀ (grouping : Grouping) (candidate : Text),
      (grouping.condition .insensitive).holds candidate =
        ((grouping.mapTerms foldText).condition .sensitive).holds (foldText candidate) := by
    intro grouping candidate
    rw [Grouping.holds_condition, Grouping.holds_condition, Grouping.isMet_mapTerms]
    simp only [termOccurs_foldText]
  refine ⟨fun c => ⟨fold_of_isBlank, isBlank_fold c⟩, ?_, ?_, ?_, ?_⟩
  · intro without strict hwithout hstrict grouping asked folded hasked hfold candidate
    obtain rfl := (Options.condition_eq_ok_iff.1 hasked).2
    obtain rfl := (Options.condition_eq_ok_iff.1 hfold).2
    rw [hwithout, hstrict]
    exact hfolded grouping candidate
  · intro without hwithout grouping other asked askedOther hterms hasked hother candidate alike hfold
    obtain rfl := (Options.condition_eq_ok_iff.1 hasked).2
    obtain rfl := (Options.condition_eq_ok_iff.1 hother).2
    rw [hwithout, hfolded, hfolded, hterms, hfold]
  · intro strict loose hstrict hloose hmode htokens query compiled hcompile candidate h
    exact hstrict.filter_of_sensitive hloose hmode htokens hcompile h
  · intro searcher hreachable query compiled hcompile candidate h
    have hstrict : (searcher.setCaseMode .sensitive).IsReachable :=
      hreachable.perform (.setCaseMode .sensitive)
    have hoptions : (searcher.setCaseMode .sensitive).options =
        { searcher.options with caseMode := .sensitive } := configure_options searcher _
    refine hstrict.filter_of_sensitive hreachable ?_ ?_ hcompile h
    · rw [hoptions]
    · rw [hoptions]

def runAndTerm (first second third : Text) : Grouping :=
  .mixed [.operand ⟨some .or, [first, second]⟩, .operator .and, .operand ⟨none, [third]⟩]

theorem search_without_case_three_forms :
    let without : Options := {}
    let strict : Options := { caseMode := .sensitive }
    let asked := runAndTerm ['\u212a'] ['\u017f'] ['\u03c2', ' ', 'X']
    let other := runAndTerm ['K'] ['S'] ['\u03a3', ' ', 'x']
    let query := "Apple || b".toList
    let searcher : Searcher := { options := without }
    (∃ condition folded, without.condition asked = .ok condition ∧
        strict.condition (asked.mapTerms foldText) = .ok folded ∧
        condition.holds "s \u03c3\tx".toList = folded.holds (foldText "s \u03c3\tx".toList)) ∧
      (∃ condition conditionOther, asked.mapTerms foldText = other.mapTerms foldText ∧
        without.condition asked = .ok condition ∧ without.condition other = .ok conditionOther ∧
        foldText "k \u03c2 x".toList = foldText "\u212a \u03a3 X".toList ∧
        condition.holds "k \u03c2 x".toList = conditionOther.holds "\u212a \u03a3 X".toList) ∧
      (∃ compiled, (searcher.compile query).1 = .ok compiled) ∧
      (({ options := strict } : Searcher).filter "Apple".toList query).1 = true ∧
      (searcher.filter "Apple".toList query).1 = true ∧
      ((searcher.setCaseMode .sensitive).filter "b".toList query).1 = true ∧
      (searcher.filter "b".toList query).1 = true := by
  intro without strict asked other query searcher
  obtain ⟨-, hfolded, halike, hstricter, henabled⟩ := search_without_case_eq_folded
  obtain ⟨condition, hcondition⟩ : ∃ condition, without.condition asked = .ok condition :=
    exists_eq_ok_of_isOk (by decide +kernel)
  obtain ⟨conditionOther, hother⟩ : ∃ condition, without.condition other = .ok condition :=
    exists_eq_ok_of_isOk (by decide +kernel)
  obtain ⟨folded, hfold⟩ :
      ∃ condition, strict.condition (asked.mapTerms foldText) = .ok condition :=
    exists_eq_ok_of_isOk (by decide +kernel)
  have hterms : asked.mapTerms foldText = other.mapTerms foldText := by decide +kernel
  have hcandidates : foldText "k \u03c2 x".toList = foldText "\u212a \u03a3 X".toList := by
    decide +kernel
  have hsearcher : searcher.IsReachable := ⟨without, [], rfl⟩
  have hstrict : ({ options := strict } : Searcher).IsReachable := ⟨strict, [], rfl⟩
  have hset : (searcher.setCaseMode .sensitive).IsReachable :=
    hsearcher.perform (.setCaseMode .sensitive)
  have htrim : trim query = query := by decide
  have hquery : trim query ≠ [] := by rw [htrim]; exact List.cons_ne_nil _ _
  have hsplit : Tokens.standard.split (trim query) = .link "Apple".toList .or (.last ['b']) := by
    rw [htrim]
    exact Chain.split_eq_iff.2 ⟨by decide, by decide⟩
  have hcompile : ∃ compiled, (searcher.compile query).1 = .ok compiled := by
    apply exists_eq_ok_of_isOk
    rw [hsearcher.isCoherent.compile_fst, Options.compile_of_trim_ne_nil hquery, hsplit]
    decide +kernel
  have hfirst : (({ options := strict } : Searcher).filter "Apple".toList query).1 = true := by
    rw [hstrict.isCoherent.filter_fst, Options.compile_of_trim_ne_nil hquery, hsplit]
    rfl
  have hsecond : ((searcher.setCaseMode .sensitive).filter "b".toList query).1 = true := by
    have hoptions : (searcher.setCaseMode .sensitive).options = strict := configure_options _ _
    rw [hset.isCoherent.filter_fst, hoptions, Options.compile_of_trim_ne_nil hquery, hsplit]
    rfl
  obtain ⟨compiled, hcompile⟩ := hcompile
  exact ⟨⟨condition, folded, hcondition, hfold,
      hfolded without strict rfl rfl asked condition folded hcondition hfold _⟩,
    ⟨condition, conditionOther, hterms, hcondition, hother, hcandidates,
      halike without rfl asked other condition conditionOther hterms hcondition hother _ _
        hcandidates⟩,
    ⟨compiled, hcompile⟩, hfirst,
    hstricter _ searcher hstrict hsearcher rfl rfl query compiled hcompile _ hfirst, hsecond,
    henabled searcher hsearcher query compiled hcompile _ hsecond⟩

end Searcher

end BooleanSearch
