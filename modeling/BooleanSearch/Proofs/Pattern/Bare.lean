import BooleanSearch.Proofs.Pattern.Reading
import BooleanSearch.Proofs.Text.Printed

set_option autoImplicit false
set_option relaxedAutoImplicit false

namespace BooleanSearch

def isBareChar (c : Char) : Bool := c != '\\' && c != ' ' && c != ']'

/-- The text has no blank, and no closing bracket but behind a backslash. -/
inductive IsBare : Text → Prop where
  | nil : IsBare []
  /-- A backslash and the character behind it belong together. -/
  | escaped (c : Char) {text : Text} (h : IsBare text) : IsBare ('\\' :: c :: text)
  | plain {c : Char} {text : Text} (hc : isBareChar c) (h : IsBare text) : IsBare (c :: text)

def EndsWord (rest : Text) : Prop := ∀ c ∈ rest.head?, c = ' ' ∨ c = ']'

section Bare

variable {text other rest rest' : Text}

theorem isBare_of_all (h : text.all isBareChar) : IsBare text := by
  induction text with
  | nil => exact .nil
  | cons c text ih =>
    rw [List.all_cons, Bool.and_eq_true] at h
    exact .plain h.1 (ih h.2)

private theorem IsBare.append (h : IsBare text) (hother : IsBare other) : IsBare
    (text ++ other) := by
  induction h with
  | nil => exact hother
  | escaped c _ ih => exact .escaped c ih
  | plain hc _ ih => exact .plain hc ih

theorem endsWord_of_followsEntry (h : FollowsEntry [' '] ']' rest) : EndsWord rest := by
  intro c hc
  rcases h with ⟨text, rfl⟩ | hclose
  · exact .inl (Option.some.inj hc).symm
  · rw [hclose] at hc
    exact .inr (Option.some.inj hc).symm

private theorem EndsWord.ne_backslash {c : Char} (h : EndsWord (c :: rest)) : c ≠ '\\' := by
  rcases h c rfl with rfl | rfl
  · decide
  · decide

/-- A bare word ends where a blank or a closing bracket first stands without a backslash. -/
theorem IsBare.append_inj (h : IsBare text) (hother : IsBare other) (hrest : EndsWord rest)
    (hrest' : EndsWord rest') (heq : text ++ rest = other ++ rest') :
    text = other ∧ rest = rest' := by
  induction h generalizing other with
  | nil =>
    obtain rfl : rest = other ++ rest' := heq
    cases hother with
    | nil => exact ⟨rfl, rfl⟩
    | escaped d _ => exact absurd rfl hrest.ne_backslash
    | plain hd _ =>
      rcases hrest _ rfl with rfl | rfl
      · exact absurd hd (by decide)
      · exact absurd hd (by decide)
  | escaped c _ ih =>
    cases hother with
    | nil =>
      obtain rfl : _ = rest' := heq
      exact absurd rfl hrest'.ne_backslash
    | escaped d hother =>
      obtain ⟨rfl, htexts⟩ := List.cons.inj (List.cons.inj heq).2
      obtain ⟨rfl, hrests⟩ := ih hother htexts
      exact ⟨rfl, hrests⟩
    | plain hd _ =>
      obtain ⟨rfl, -⟩ := List.cons.inj heq
      exact absurd hd (by decide)
  | plain hc _ ih =>
    cases hother with
    | nil =>
      obtain rfl : _ = rest' := heq
      rcases hrest' _ rfl with rfl | rfl
      · exact absurd hc (by decide)
      · exact absurd hc (by decide)
    | escaped d _ =>
      obtain ⟨rfl, -⟩ := List.cons.inj heq
      exact absurd hc (by decide)
    | plain _ hother =>
      obtain ⟨rfl, htexts⟩ := List.cons.inj heq
      obtain ⟨rfl, hrests⟩ := ih hother htexts
      exact ⟨rfl, hrests⟩

theorem endsWord_blank (text : Text) : EndsWord (' ' :: text) := fun _ hc =>
  .inl (Option.some.inj hc).symm

private theorem endsWord_bracket (text : Text) : EndsWord (']' :: text) := fun _ hc =>
  .inr (Option.some.inj hc).symm

def slashed (text : Text) : Text := ['/'] ++ text ++ ['/']

private theorem IsBare.slashed (h : IsBare text) : IsBare (slashed text) :=
  ((isBare_of_all (by decide)).append h).append (isBare_of_all (by decide))

private theorem slashed_injective (h : slashed text = slashed other) : text = other :=
  List.append_cancel_left (List.append_cancel_right h)

theorem IsBare.slashed_append_inj (h : IsBare text) (hother : IsBare other) (hrest : EndsWord rest)
    (hrest' : EndsWord rest') (heq : BooleanSearch.slashed text ++ rest =
      BooleanSearch.slashed other ++ rest') : text = other ∧ rest = rest' := by
  obtain ⟨hword, hrests⟩ := h.slashed.append_inj hother.slashed hrest hrest' heq
  exact ⟨slashed_injective hword, hrests⟩

end Bare

def Pattern.IsOfTerm (pattern : Pattern) : Prop := ∃ term : Text, pattern = ofTerm term

theorem Pattern.IsOfTerm.isBare_source {pattern : Pattern} (h : pattern.IsOfTerm) :
    IsBare pattern.source := by
  obtain ⟨term, rfl⟩ := h
  induction term with
  | nil => exact .nil
  | cons c term ih =>
    have hcons : (ofTerm (c :: term)).source = (Atom.ofChar c).source ++ (ofTerm term).source := rfl
    rw [hcons]
    refine IsBare.append ?_ ih
    rw [Atom.ofChar]
    split
    · exact .escaped 's' (isBare_of_all (by decide))
    · rename_i hblank
      rw [Atom.source]
      split
      · exact .escaped c .nil
      · rename_i hmeta
        refine .plain ?_ .nil
        simp only [isBareChar, Bool.and_eq_true, bne_iff_ne]
        refine ⟨⟨?_, ?_⟩, ?_⟩
        · rintro rfl
          exact hmeta (by decide)
        · rintro rfl
          exact hblank (by decide)
        · rintro rfl
          exact hmeta (by decide)

theorem isBare_alternationSource {patterns : List Pattern} (h : ∀ p ∈ patterns, p.IsOfTerm) :
    IsBare (alternationSource patterns) := by
  have hgroup : ∀ p : Pattern, p.IsOfTerm → IsBare ("(?:".toList ++ p.source ++ [')']) :=
    fun p hp => ((isBare_of_all (by decide)).append hp.isBare_source).append
      (isBare_of_all (by decide))
  induction patterns with
  | nil => exact .nil
  | cons first patterns ih =>
    rw [List.forall_mem_cons] at h
    cases patterns with
    | nil =>
      rw [alternationSource, List.map_singleton, List.intercalate_singleton]
      exact hgroup first h.1
    | cons second patterns =>
      rw [alternationSource_cons_cons]
      exact ((hgroup first h.1).append (isBare_of_all (by decide))).append (ih h.2)

theorem alternationSource_eq_iff {p q : List Pattern} :
    alternationSource p = alternationSource q ↔ p = q := by
  have hne : ∀ (first : Pattern) (patterns : List Pattern),
      alternationSource (first :: patterns) ≠ alternationSource [] := by
    intro first patterns h
    cases patterns with
    | nil => exact absurd h (List.cons_ne_nil '(' _)
    | cons second patterns =>
      rw [alternationSource_cons_cons] at h
      exact absurd h (List.cons_ne_nil '(' _)
  refine ⟨fun h => ?_, congrArg alternationSource⟩
  cases p with
  | nil =>
    cases q with
    | nil => rfl
    | cons first q => exact absurd h.symm (hne first q)
  | cons first p =>
    cases q with
    | nil => exact absurd h (hne first p)
    | cons second q =>
      exact alternationSource_injective (List.cons_ne_nil _ _) (List.cons_ne_nil _ _) h

/-- The comma that stands behind a pattern in a list, unless the list is closed there. -/
def commaBefore (rest : Text) : Text := if rest.head? = some ' ' then [','] else []

private theorem exists_commaBefore_append {rest : Text} (h : FollowsEntry [',', ' '] ']' rest) :
    ∃ after, EndsWord after ∧ rest = commaBefore after ++ after := by
  rcases h with ⟨text, rfl⟩ | hclose
  · exact ⟨' ' :: text, endsWord_blank text, rfl⟩
  · obtain ⟨text, rfl⟩ := List.head?_eq_some_iff.1 hclose
    exact ⟨']' :: text, endsWord_bracket text, rfl⟩

theorem Pattern.IsOfTerm.readAlike_slashed {p q : Pattern} (hp : p.IsOfTerm) (hq : q.IsOfTerm) :
    ReadAlike (FollowsEntry [',', ' '] ']') (fun p => slashed p.source) id p q := by
  have hcomma : ∀ rest, IsBare (commaBefore rest) := by
    intro rest
    rw [commaBefore]
    split
    · exact isBare_of_all (by decide)
    · exact .nil
  intro rest rest' hrest hrest' h
  obtain ⟨after, hafter, rfl⟩ := exists_commaBefore_append hrest
  obtain ⟨after', hafter', rfl⟩ := exists_commaBefore_append hrest'
  rw [← List.append_assoc, ← List.append_assoc] at h
  obtain ⟨hword, rfl⟩ := (hp.isBare_source.slashed.append (hcomma after)).append_inj
    (hq.isBare_source.slashed.append (hcomma after')) hafter hafter' h
  exact ⟨source_injective (slashed_injective (List.append_cancel_right hword)), rfl⟩

end BooleanSearch
