import BooleanSearch.Proofs.Condition.Limited

set_option autoImplicit false
set_option relaxedAutoImplicit false

namespace BooleanSearch

def foldText (text : Text) : Text := text.map fold

namespace Run

def mapTerms (f : Text → Text) (run : Run) : Run := ⟨run.tag, run.terms.map f⟩

/-- Whether a run holds when it is known of each term whether it does; one without terms always
holds. -/
def isMet (holds : Text → Bool) (run : Run) : Bool := run.terms.isEmpty || run.verdict holds

end Run

namespace Grouping

def mapTerms (f : Text → Text) : Grouping → Grouping
  | .lone term => .lone (f term)
  | .single run => .single (run.mapTerms f)
  | .mixed pieces => .mixed (pieces.map (Piece.map (Run.mapTerms f)))

def isMet (holds : Text → Bool) : Grouping → Bool
  | .lone term => holds term
  | .single run => run.isMet holds
  | .mixed pieces => enoughVotes (pieces.map (Piece.map (Run.isMet holds)))

end Grouping

def termOccurs (mode : CaseMode) (candidate term : Text) : Bool :=
  (Pattern.ofTerm term).occursIn mode candidate

private theorem Piece.map_map {α β γ : Type} (f : α → β) (g : β → γ) (piece : Piece α) :
    (piece.map f).map g = piece.map fun a => g (f a) := by
  cases piece <;> rfl

namespace Run

variable {holds other : Text → Bool} {run : Run}

private theorem holds_condition (mode : CaseMode) (run : Run) (candidate : Text) :
    (run.condition mode).holds candidate = run.isMet (termOccurs mode candidate) := by
  obtain ⟨tag, terms⟩ := run
  rcases terms with - | ⟨first, - | ⟨second, rest⟩⟩
  · rcases tag with - | op
    · rfl
    · cases op <;> rfl
  · rw [isMet, verdict_singleton]
    rfl
  · rcases tag with - | op
    · exact List.any_map
    · cases op
      · exact List.all_map
      · exact List.any_map

private theorem isMet_mapTerms (holds : Text → Bool) (f : Text → Text) (run : Run) :
    (run.mapTerms f).isMet holds = run.isMet fun term => holds (f term) := by
  obtain ⟨tag, terms⟩ := run
  rw [isMet, isMet, mapTerms, List.isEmpty_map]
  rcases tag with - | op
  · exact congrArg (terms.isEmpty || ·) List.any_map
  · cases op
    · exact congrArg (terms.isEmpty || ·) List.all_map
    · exact congrArg (terms.isEmpty || ·) List.any_map

private theorem verdict_mono (h : ∀ term, holds term → other term) (hrun : run.verdict holds) :
    run.verdict other := by
  obtain ⟨tag, terms⟩ := run
  have hany : terms.any holds → terms.any other := by
    rw [List.any_eq_true, List.any_eq_true]
    exact fun ⟨term, hterm, hholds⟩ => ⟨term, hterm, h term hholds⟩
  rcases tag with - | op
  · exact hany hrun
  · cases op with
    | and => exact List.all_eq_true.2 fun term hterm => h term (List.all_eq_true.1 hrun term hterm)
    | or => exact hany hrun

private theorem isMet_mono (h : ∀ term, holds term → other term) (hrun : run.isMet holds) :
    run.isMet other := by
  rw [isMet, Bool.or_eq_true] at hrun ⊢
  exact hrun.imp_right (verdict_mono h)

end Run

namespace Grouping

variable {holds other : Text → Bool} {grouping : Grouping}

theorem holds_condition (mode : CaseMode) (grouping : Grouping) (candidate : Text) :
    (grouping.condition mode).holds candidate = grouping.isMet (termOccurs mode candidate) := by
  cases grouping with
  | lone term =>
    rw [condition, Condition.holds]
    rfl
  | single run => exact run.holds_condition mode candidate
  | mixed pieces =>
    rw [condition, Condition.holds, Condition.verdicts_eq_map, List.map_map, isMet]
    refine congrArg enoughVotes (List.map_congr_left fun piece _ => ?_)
    rw [Function.comp_apply, Piece.map_map]
    simp only [Run.holds_condition]

theorem isMet_mapTerms (holds : Text → Bool) (f : Text → Text) (grouping : Grouping) :
    (grouping.mapTerms f).isMet holds = grouping.isMet fun term => holds (f term) := by
  cases grouping with
  | lone term => rfl
  | single run => exact run.isMet_mapTerms holds f
  | mixed pieces =>
    rw [mapTerms, isMet, isMet, List.map_map]
    refine congrArg enoughVotes (List.map_congr_left fun piece _ => ?_)
    rw [Function.comp_apply, Piece.map_map]
    simp only [Run.isMet_mapTerms]

theorem isMet_mono (h : ∀ term, holds term → other term) (hgrouping : grouping.isMet holds) :
    grouping.isMet other := by
  cases grouping with
  | lone term => exact h term hgrouping
  | single run => exact Run.isMet_mono h hgrouping
  | mixed pieces => exact enoughVotes_map_mono (fun _ _ => Run.isMet_mono h) hgrouping

end Grouping

section Folding

private theorem Pattern.ofTerm_foldText (term : Text) :
    ofTerm (foldText term) = (ofTerm term).map (Atom.map fold) := by
  rw [ofTerm, ofTerm, foldText, List.map_map, List.map_map]
  refine List.map_congr_left fun c _ => ?_
  rw [Function.comp_apply, Function.comp_apply, Atom.ofChar, Atom.ofChar, isBlank_fold]
  cases isBlank c <;> rfl

private theorem map_key_sensitive (text : Text) : text.map CaseMode.sensitive.key = text :=
  List.map_id' text

theorem termOccurs_foldText (candidate term : Text) :
    termOccurs .sensitive (foldText candidate) (foldText term) =
      termOccurs .insensitive candidate term := by
  have hatoms : ∀ pattern : Pattern, pattern.map (Atom.map CaseMode.sensitive.key) = pattern := by
    intro pattern
    refine (List.map_congr_left fun atom _ => ?_).trans (List.map_id' pattern)
    cases atom <;> rfl
  rw [termOccurs, termOccurs, Pattern.occursIn, Pattern.occursIn, hatoms, map_key_sensitive,
    Pattern.ofTerm_foldText]
  rfl

theorem termOccurs_of_sensitive (mode : CaseMode) {candidate term : Text}
    (h : termOccurs .sensitive candidate term) : termOccurs mode candidate term := by
  rw [termOccurs, Pattern.occursIn_ofTerm_iff] at h ⊢
  obtain ⟨parts, hparts, hinfix⟩ := h
  exact ⟨parts, hparts.imp fun _ _ => Fits.of_sensitive mode, hinfix⟩

end Folding

end BooleanSearch
