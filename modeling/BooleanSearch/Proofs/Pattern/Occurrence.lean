import BooleanSearch.Pattern.Basic
import BooleanSearch.Text.FoldedBlank
import Mathlib.Data.List.Forall2

set_option autoImplicit false
set_option relaxedAutoImplicit false

namespace BooleanSearch

/-- A part of a text that can stand for a character: some blanks for a blank, and for any other
character one that compares equal to it. -/
def Fits (mode : CaseMode) (c : Char) (part : Text) : Prop :=
  if isBlank c then part ≠ [] ∧ ∀ d ∈ part, isBlank d
  else ∃ d, part = [d] ∧ mode.key d = mode.key c

def StartsWith (mode : CaseMode) (term text : Text) : Prop :=
  ∃ parts, List.Forall₂ (Fits mode) term parts ∧ parts.flatten <+: text

/-- Consecutive parts of the text stand for the characters of the term. -/
def Occurs (mode : CaseMode) (term text : Text) : Prop :=
  ∃ parts, List.Forall₂ (Fits mode) term parts ∧ parts.flatten <:+: text

variable {mode : CaseMode} {c d : Char} {term text : Text}

theorem fits_of_blank (hc : isBlank c) {part : Text} :
    Fits mode c part ↔ part ≠ [] ∧ ∀ d ∈ part, isBlank d := by
  rw [Fits, if_pos hc]

theorem fits_of_not_blank (hc : ¬ isBlank c) {part : Text} :
    Fits mode c part ↔ ∃ d, part = [d] ∧ mode.key d = mode.key c := by
  rw [Fits, if_neg hc]

theorem Fits.ne_nil {part : Text} (h : Fits mode c part) : part ≠ [] := by
  by_cases hc : isBlank c
  · exact ((fits_of_blank hc).1 h).1
  · obtain ⟨d, rfl, -⟩ := (fits_of_not_blank hc).1 h
    exact List.cons_ne_nil d []

theorem Fits.self (mode : CaseMode) (c : Char) : Fits mode c [c] := by
  by_cases hc : isBlank c
  · exact (fits_of_blank hc).2 ⟨List.cons_ne_nil _ _, by simpa using hc⟩
  · exact (fits_of_not_blank hc).2 ⟨c, rfl, rfl⟩

theorem Fits.of_sensitive (mode : CaseMode) {part : Text} (h : Fits .sensitive c part) :
    Fits mode c part := by
  by_cases hc : isBlank c
  · exact (fits_of_blank hc).2 ((fits_of_blank hc).1 h)
  · obtain ⟨d, rfl, hkey⟩ := (fits_of_not_blank hc).1 h
    obtain rfl : d = c := hkey
    exact (fits_of_not_blank hc).2 ⟨d, rfl, rfl⟩

namespace StartsWith

private theorem nil (mode : CaseMode) (text : Text) : StartsWith mode [] text :=
  ⟨[], .nil, List.nil_prefix⟩

private theorem cons_iff : StartsWith mode (c :: term) text ↔
    ∃ part rest, part ++ rest = text ∧ Fits mode c part ∧ StartsWith mode term rest := by
  constructor
  · intro h
    obtain ⟨parts, hparts, rest, rfl⟩ := h
    cases hparts with
    | @cons _ part _ parts hpart hparts =>
      refine ⟨part, parts.flatten ++ rest, ?_, hpart, parts, hparts, List.prefix_append _ _⟩
      rw [List.flatten_cons, List.append_assoc]
  · intro h
    obtain ⟨part, rest, rfl, hpart, parts, hparts, hstart⟩ := h
    refine ⟨part :: parts, .cons hpart hparts, ?_⟩
    rw [List.flatten_cons, List.prefix_append_right_inj]
    exact hstart

private theorem not_cons_nil : ¬ StartsWith mode (c :: term) [] := by
  intro h
  obtain ⟨part, rest, htext, hpart, -⟩ := cons_iff.1 h
  exact hpart.ne_nil (List.append_eq_nil_iff.1 htext).1

private theorem cons_iff_of_not_blank (hc : ¬ isBlank c) :
    StartsWith mode (c :: term) (d :: text) ↔
      mode.key c = mode.key d ∧ StartsWith mode term text := by
  constructor
  · intro h
    obtain ⟨part, rest, htext, hpart, hrest⟩ := cons_iff.1 h
    obtain ⟨e, rfl, hkey⟩ := (fits_of_not_blank hc).1 hpart
    obtain ⟨rfl, rfl⟩ := List.cons.inj htext
    exact ⟨hkey.symm, hrest⟩
  · intro h
    obtain ⟨hkey, hrest⟩ := h
    have hpart : Fits mode c [d] := (fits_of_not_blank hc).2 ⟨d, rfl, hkey.symm⟩
    exact cons_iff.2 ⟨[d], text, rfl, hpart, hrest⟩

private theorem cons_iff_of_blank (hc : isBlank c) :
    StartsWith mode (c :: term) (d :: text) ↔
      isBlank d ∧ (StartsWith mode term text ∨ StartsWith mode (c :: term) text) := by
  constructor
  · intro h
    obtain ⟨part, rest, htext, hpart, hrest⟩ := cons_iff.1 h
    obtain ⟨hne, hblank⟩ := (fits_of_blank hc).1 hpart
    obtain ⟨e, part, rfl⟩ := List.exists_cons_of_ne_nil hne
    obtain ⟨rfl, rfl⟩ := List.cons.inj htext
    rw [List.forall_mem_cons] at hblank
    refine ⟨hblank.1, ?_⟩
    by_cases hnil : part = []
    · left
      rwa [hnil]
    · right
      have hpart' : Fits mode c part := (fits_of_blank hc).2 ⟨hnil, hblank.2⟩
      exact cons_iff.2 ⟨part, rest, rfl, hpart', hrest⟩
  · intro h
    obtain ⟨hd, h⟩ := h
    rcases h with hrest | h
    · have hpart : Fits mode c [d] := (fits_of_blank hc).2 ⟨by simp, by simpa using hd⟩
      exact cons_iff.2 ⟨[d], text, rfl, hpart, hrest⟩
    · obtain ⟨part, rest, rfl, hpart, hrest⟩ := cons_iff.1 h
      have hblank := ((fits_of_blank hc).1 hpart).2
      have hpart' : Fits mode c (d :: part) :=
        (fits_of_blank hc).2 ⟨by simp, List.forall_mem_cons.2 ⟨hd, hblank⟩⟩
      exact cons_iff.2 ⟨d :: part, rest, rfl, hpart', hrest⟩

private theorem of_blank_blank {c' : Char} (hc : isBlank c) (hc' : isBlank c')
    (h : StartsWith mode (c :: c' :: term) text) : StartsWith mode (c' :: term) text := by
  -- The two parts together stand for the second blank.
  obtain ⟨part, rest, rfl, hpart, h⟩ := cons_iff.1 h
  obtain ⟨part', rest, rfl, hpart', hrest⟩ := cons_iff.1 h
  obtain ⟨hne, hblank⟩ := (fits_of_blank hc).1 hpart
  have hblank' := ((fits_of_blank hc').1 hpart').2
  have hboth : Fits mode c' (part ++ part') :=
    (fits_of_blank hc').2 ⟨by simp [hne], List.forall_mem_append.2 ⟨hblank, hblank'⟩⟩
  exact cons_iff.2 ⟨part ++ part', rest, List.append_assoc _ _ _, hboth, hrest⟩

private theorem cons_cons_iff_of_blank {c' : Char} (hc : isBlank c) (hc' : isBlank c') :
    StartsWith mode (c :: c' :: term) (d :: text) ↔
      isBlank d ∧ StartsWith mode (c' :: term) text := by
  rw [cons_iff_of_blank hc]
  constructor
  · intro h
    obtain ⟨hd, h⟩ := h
    rcases h with hrest | h
    · exact ⟨hd, hrest⟩
    · exact ⟨hd, h.of_blank_blank hc hc'⟩
  · intro h
    exact ⟨h.1, Or.inl h.2⟩

end StartsWith

namespace Pattern

private theorem map_ofTerm_cons_of_blank (hc : isBlank c) (f : Char → Char) (term : Text) :
    (ofTerm (c :: term)).map (Atom.map f) = .blanks :: (ofTerm term).map (Atom.map f) := by
  simp [ofTerm, Atom.ofChar, hc, Atom.map]

private theorem map_ofTerm_cons_of_not_blank (hc : ¬ isBlank c) (f : Char → Char) (term : Text) :
    (ofTerm (c :: term)).map (Atom.map f) = .char (f c) :: (ofTerm term).map (Atom.map f) := by
  simp [ofTerm, Atom.ofChar, hc, Atom.map]

private theorem matchesStart_ofTerm_iff (mode : CaseMode) (term text : Text) :
    matchesStart ((ofTerm term).map (Atom.map mode.key)) (text.map mode.key) ↔
      StartsWith mode term text := by
  induction text generalizing term with
  | nil =>
    cases term with
    | nil => simp [ofTerm, matchesStart, StartsWith.nil]
    | cons c term => simp [ofTerm, matchesStart, StartsWith.not_cons_nil]
  | cons d text ih =>
    cases term with
    | nil => simp [ofTerm, matchesStart, StartsWith.nil]
    | cons c term =>
      by_cases hc : isBlank c
      · cases term with
        | nil =>
          have hrest := ih [c]
          rw [map_ofTerm_cons_of_blank hc] at hrest ⊢
          rw [StartsWith.cons_iff_of_blank hc, ← hrest, ← ih [], List.map_cons]
          simp [ofTerm, matchesStart, isBlank_key]
        | cons c' term =>
          by_cases hc' : isBlank c'
          · have hrest := ih (c' :: term)
            rw [map_ofTerm_cons_of_blank hc'] at hrest
            rw [StartsWith.cons_cons_iff_of_blank hc hc', ← hrest, map_ofTerm_cons_of_blank hc,
              map_ofTerm_cons_of_blank hc', List.map_cons, matchesStart, isBlank_key]
            simp
          · have hlater := ih (c :: c' :: term)
            have hrest := ih (c' :: term)
            rw [map_ofTerm_cons_of_blank hc, map_ofTerm_cons_of_not_blank hc'] at hlater ⊢
            rw [map_ofTerm_cons_of_not_blank hc'] at hrest
            rw [StartsWith.cons_iff_of_blank hc, ← hrest, ← hlater, List.map_cons]
            simp [matchesStart, isBlank_key]
      · rw [StartsWith.cons_iff_of_not_blank hc, ← ih term, map_ofTerm_cons_of_not_blank hc,
          List.map_cons, matchesStart]
        simp

end Pattern

theorem anywhere_map (f : Char → Char) (test : Text → Bool) (text : Text) :
    anywhere test (text.map f) = anywhere (fun text => test (text.map f)) text := by
  induction text with
  | nil => rfl
  | cons c text ih => simp [anywhere, ih]

theorem anywhere_iff (test : Text → Bool) (text : Text) :
    anywhere test text ↔ ∃ rest, rest <:+ text ∧ test rest := by
  induction text with
  | nil => simp [anywhere]
  | cons c text ih => simp [anywhere, ih, List.suffix_cons_iff, or_and_right, exists_or]

theorem occurs_of_isInfix (mode : CaseMode) (h : term <:+: text) : Occurs mode term text := by
  have hparts : List.Forall₂ (Fits mode) term (term.map fun c => [c]) := by
    rw [List.forall₂_map_right_iff]
    exact List.forall₂_same.2 fun c _ => Fits.self mode c
  have hflatten : (term.map fun c => [c]).flatten = term := by
    rw [← List.flatMap_def, List.flatMap_singleton']
  exact ⟨_, hparts, by rwa [hflatten]⟩

private theorem occurs_iff_exists_suffix :
    Occurs mode term text ↔ ∃ rest, rest <:+ text ∧ StartsWith mode term rest := by
  constructor
  · intro h
    obtain ⟨parts, hparts, hinfix⟩ := h
    obtain ⟨rest, hstart, hsuffix⟩ := List.infix_iff_prefix_suffix.1 hinfix
    exact ⟨rest, hsuffix, parts, hparts, hstart⟩
  · intro h
    obtain ⟨rest, hsuffix, parts, hparts, hstart⟩ := h
    exact ⟨parts, hparts, List.infix_iff_prefix_suffix.2 ⟨rest, hstart, hsuffix⟩⟩

/-- The pattern of a term occurs exactly where the term does. -/
theorem Pattern.occursIn_ofTerm_iff (mode : CaseMode) (term text : Text) :
    (ofTerm term).occursIn mode text ↔ Occurs mode term text := by
  rw [occursIn, anywhere_map, anywhere_iff, occurs_iff_exists_suffix]
  simp only [matchesStart_ofTerm_iff]

instance (mode : CaseMode) (term text : Text) : Decidable (Occurs mode term text) :=
  decidable_of_iff _ (Pattern.occursIn_ofTerm_iff mode term text)

example : Occurs .insensitive "d  C".toList "red \t car".toList ∧
    ¬ Occurs .insensitive "d  C".toList "red car".toList := by decide

end BooleanSearch
