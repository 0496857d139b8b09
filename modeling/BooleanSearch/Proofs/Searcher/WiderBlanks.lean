import BooleanSearch.Proofs.Condition.Monotone
import BooleanSearch.Proofs.Pattern.Blocks
import BooleanSearch.Proofs.Pattern.Reading

set_option autoImplicit false
set_option relaxedAutoImplicit false

namespace BooleanSearch

/-- The wider text has some more blanks directly after a blank of the text. -/
def WidensBlank (text wider : Text) : Prop :=
  ∃ before blank inserted after, isBlank blank ∧ inserted.all isBlank ∧
    text = before ++ blank :: after ∧ wider = before ++ blank :: (inserted ++ after)

def Condition.IsOfTerms (condition : Condition) : Prop :=
  ∃ terms : List Text, condition.patterns = terms.map .ofTerm

variable {mode : CaseMode} {c : Char} {term text other : Text}

section Blanks

private theorem SameButBlanks.refl (text : Text) : SameButBlanks text text :=
  List.forall₂_same.2 fun _ _ => Or.inl rfl

private theorem SameButBlanks.symm (h : SameButBlanks text other) : SameButBlanks other text :=
  h.flip.imp fun _ _ hcd => hcd.imp Eq.symm And.symm

private theorem SameButBlanks.standsFor (h : SameButBlanks text other) :
    StandsFor mode text other := by
  induction h with
  | nil => exact StandsFor.nil_iff.2 rfl
  | @cons c d text other hcd h ih =>
    have hfits : Fits mode c [d] := by
      rcases hcd with rfl | ⟨hc, hd⟩
      · exact Fits.self mode c
      · exact (fits_of_blank hc).2 ⟨List.cons_ne_nil d [], by simpa using hd⟩
    exact StandsFor.cons_iff.2 ⟨[d], other, rfl, hfits, ih⟩

private theorem WidensBlank.standsFor {wider : Text} (h : WidensBlank text wider) :
    StandsFor mode text wider := by
  obtain ⟨before, blank, inserted, after, hblank, hinserted, rfl, rfl⟩ := h
  have hfits : Fits mode blank (blank :: inserted) :=
    (fits_of_blank hblank).2
      ⟨List.cons_ne_nil _ _, List.forall_mem_cons.2 ⟨hblank, List.all_eq_true.1 hinserted⟩⟩
  have hbefore : StandsFor mode before before := (SameButBlanks.refl before).standsFor
  have hafter : StandsFor mode after after := (SameButBlanks.refl after).standsFor
  have hrest := StandsFor.cons_iff.2 ⟨blank :: inserted, after, rfl, hfits, hafter⟩
  exact StandsFor.append_iff.2 ⟨before, _, rfl, hbefore, hrest⟩

end Blanks

section StandsFor

private theorem StandsFor.ne_nil (h : StandsFor mode text other) (hne : text ≠ []) : other ≠
    [] := by
  obtain ⟨c, rest, rfl⟩ := List.exists_cons_of_ne_nil hne
  obtain ⟨part, later, rfl, hpart, -⟩ := cons_iff.1 h
  exact List.append_ne_nil_of_left_ne_nil hpart.ne_nil later

private theorem Fits.of_standsFor {part : Text} (h : Fits mode c part)
    (hother : StandsFor .sensitive part other) : Fits mode c other := by
  by_cases hc : isBlank c
  · obtain ⟨hne, hblank⟩ := (fits_of_blank hc).1 h
    exact (fits_of_blank hc).2 ⟨hother.ne_nil hne, ((StandsFor.iff_of_blank hne hblank).1 hother).2⟩
  · obtain ⟨d, rfl, hkey⟩ := (fits_of_not_blank hc).1 h
    have hd : ¬ isBlank d := by rwa [← isBlank_key mode d, hkey, isBlank_key]
    obtain ⟨part, rest, rfl, hpart, hrest⟩ := StandsFor.cons_iff.1 hother
    obtain rfl := StandsFor.nil_iff.1 hrest
    obtain ⟨e, rfl, hsame⟩ := (fits_of_not_blank hd).1 hpart
    obtain rfl : e = d := hsame
    exact h

private theorem StandsFor.trans (h : StandsFor mode term text)
    (hother : StandsFor .sensitive text other) :
    StandsFor mode term other := by
  induction term generalizing text other with
  | nil =>
    obtain rfl := nil_iff.1 h
    exact nil_iff.2 (nil_iff.1 hother)
  | cons c term ih =>
    -- The other text is cut where the part for `c` ends, so an inserted blank stays with its part.
    obtain ⟨part, rest, rfl, hpart, hrest⟩ := cons_iff.1 h
    obtain ⟨part', rest', rfl, hpart', hrest'⟩ := append_iff.1 hother
    exact cons_iff.2 ⟨part', rest', rfl, hpart.of_standsFor hpart', ih hrest hrest'⟩

private theorem Occurs.of_standsFor (h : Occurs mode term text)
    (hother : StandsFor .sensitive text other) : Occurs mode term other := by
  obtain ⟨part, hpart, before, after, rfl⟩ := occurs_iff_exists_standsFor.1 h
  obtain ⟨start, after', rfl, hstart, -⟩ := StandsFor.append_iff.1 hother
  obtain ⟨before', part', rfl, -, hpart'⟩ := StandsFor.append_iff.1 hstart
  exact occurs_iff_exists_standsFor.2 ⟨part', hpart.trans hpart', before', after', rfl⟩

end StandsFor

private theorem Options.isOfTerms_of_compile [Engine] {options : Options} {query : Text}
    {condition : Condition} (h : options.compile query = .ok (some condition)) :
    condition.IsOfTerms := by
  obtain ⟨-, segments, -, hpieces⟩ := keeps_of_compile h
  refine ⟨operands segments.pieces, ?_⟩
  rw [Condition.patterns, hpieces, operands_map]

private theorem Condition.IsOfTerms.holds_of_standsFor {condition : Condition}
    (hterms : condition.IsOfTerms)
    (hother : StandsFor .sensitive text other) (h : condition.holds text) :
    condition.holds other := by
  obtain ⟨terms, hpatterns⟩ := hterms
  refine condition.holds_mono (fun pattern hpattern mode hoccurs => ?_) h
  rw [hpatterns] at hpattern
  obtain ⟨term, -, rfl⟩ := List.mem_map.1 hpattern
  rw [Pattern.occursIn_ofTerm_iff] at hoccurs ⊢
  exact hoccurs.of_standsFor hother

private theorem Condition.IsOfTerms.holds_eq {condition : Condition} (hterms : condition.IsOfTerms)
    (h : SameButBlanks text other) : condition.holds other = condition.holds text :=
  Bool.eq_iff_iff.2
    ⟨hterms.holds_of_standsFor h.symm.standsFor, hterms.holds_of_standsFor h.standsFor⟩

private theorem Options.satisfies_of_standsFor [Engine] {options : Options} {query : Text}
    (hother : StandsFor .sensitive text other) (h : satisfies (options.compile query) text) :
    satisfies (options.compile query) other :=
  satisfies_mono hother.ne_nil
    (fun _ hcompile => (isOfTerms_of_compile hcompile).holds_of_standsFor hother) h

namespace Searcher

/-- Other blanks in place of the blanks of a candidate change no answer, and more blanks after a
blank of it make no answer false, in all states with the same options. The same is true of every
condition on terms, and what a query compiles to is one. -/
theorem filter_of_other_blanks [Engine] :
    (∀ searcher later : Searcher, searcher.IsReachable → later.IsReachable →
      later.options = searcher.options → ∀ query candidate,
        (∀ other, SameButBlanks candidate other →
          (later.filter other query).1 = (searcher.filter candidate query).1) ∧
        ∀ wider, WidensBlank candidate wider → (searcher.filter candidate query).1 = true →
          (later.filter wider query).1 = true) ∧
      (∀ condition : Condition, condition.IsOfTerms → ∀ candidate,
        (∀ other, SameButBlanks candidate other →
          condition.holds other = condition.holds candidate) ∧
        ∀ wider, WidensBlank candidate wider → condition.holds candidate = true →
          condition.holds wider = true) ∧
      ∀ (options : Options) (query : Text) (condition : Condition),
        options.compile query = .ok (some condition) → condition.IsOfTerms := by
  refine ⟨?_, ?_, fun _ _ _ => Options.isOfTerms_of_compile⟩
  · intro searcher later hsearcher hlater hoptions query candidate
    rw [hsearcher.isCoherent.filter_fst]
    simp only [hlater.isCoherent.filter_fst, hoptions]
    refine ⟨fun other hother => ?_, fun wider hwider => ?_⟩
    · exact Bool.eq_iff_iff.2 ⟨Options.satisfies_of_standsFor hother.symm.standsFor,
        Options.satisfies_of_standsFor hother.standsFor⟩
    · exact Options.satisfies_of_standsFor hwider.standsFor
  · intro condition hterms candidate
    exact ⟨fun other hother => hterms.holds_eq hother,
      fun wider hwider => hterms.holds_of_standsFor hwider.standsFor⟩

def nestedCondition : Condition :=
  .sequence [.operand (.sequence [.operand (.term .sensitive (.ofTerm "b  c".toList)),
    .operator .and, .operand (.allOf .insensitive [.ofTerm ['A'], .ofTerm [' ']])]), .operator .or,
    .operand (.anyOf .sensitive [.ofTerm ['x'], .ofTerm ['y']])]

theorem filter_b_c_between_other_blanks :
    let searcher : Searcher := {}
    let later := searcher.run [.compile ['a'], .forget]
    let query := "b  c && A || x".toList
    let candidate := "a b\t c".toList
    let other := "a\nb  c".toList
    let wider := "a b\t\n\u3000 c".toList
    (searcher.IsReachable ∧ later.IsReachable ∧ later.options = searcher.options) ∧
      SameButBlanks candidate other ∧ WidensBlank candidate wider ∧
      ((searcher.filter candidate query).1 = true ∧ (later.filter other query).1 = true ∧
        (later.filter wider query).1 = true) ∧
      (nestedCondition.IsOfTerms ∧ nestedCondition.holds candidate = true ∧
        nestedCondition.holds other = true ∧ nestedCondition.holds wider = true) ∧
      ∃ condition, searcher.options.compile query = .ok (some condition) ∧ condition.IsOfTerms := by
  intro searcher later query candidate other wider
  have hsearcher : searcher.IsReachable := ⟨{}, [], rfl⟩
  have hlater : later.IsReachable := ⟨{}, _, rfl⟩
  have hoptions : later.options = searcher.options := by
    rw [run_options]
    rfl
  have hother : SameButBlanks candidate other := by decide
  have hwider : WidensBlank candidate wider :=
    ⟨"a b".toList, '\t', "\n\u3000".toList, " c".toList, by decide, by decide, rfl, rfl⟩
  have hterms : nestedCondition.IsOfTerms :=
    ⟨["b  c".toList, ['A'], [' '], ['x'], ['y']], rfl⟩
  have hsplit : searcher.options.tokens.split (trim query) =
      .link "b  c".toList .and (.link ['A'] .or (.last ['x'])) := by decide +kernel
  have htrim : trim query ≠ [] := by decide
  have hcompile : searcher.options.compile query =
      some <$> searcher.options.condition (.ofSegments (.ofChain
        (.link "b  c".toList .and (.link ['A'] .or (.last ['x']))))) := by
    rw [Options.compile_of_trim_ne_nil htrim, hsplit]
  have hfilter : (searcher.filter candidate query).1 = true := by
    rw [hsearcher.isCoherent.filter_fst, hcompile]
    decide +kernel
  have hholds : nestedCondition.holds candidate = true := by rfl
  obtain ⟨hanswers, hconditions, hcompiled⟩ := filter_of_other_blanks
  obtain ⟨hsame, hmore⟩ := hanswers searcher later hsearcher hlater hoptions query candidate
  obtain ⟨hsame', hmore'⟩ := hconditions nestedCondition hterms candidate
  refine ⟨⟨hsearcher, hlater, hoptions⟩, hother, hwider, ⟨hfilter, ?_, hmore wider hwider hfilter⟩,
    ⟨hterms, hholds, ?_, hmore' wider hwider hholds⟩, ?_⟩
  · rw [hsame other hother, hfilter]
  · rw [hsame' other hother, hholds]
  · obtain ⟨compiled, hok⟩ : ∃ compiled, searcher.options.compile query = .ok compiled := by
      apply exists_eq_ok_of_isOk
      rw [hcompile]
      decide +kernel
    rw [hok] at hcompile
    obtain ⟨condition, -, rfl⟩ := map_eq_ok_iff.1 hcompile.symm
    exact ⟨condition, hok, hcompiled _ query condition hok⟩

end Searcher

end BooleanSearch
