import BooleanSearch.Text.Basic
import Mathlib.Data.List.Infix

/-!
# Escape sequences

A terminal takes ESC, `[`, digits and semicolons, and `m` for a change of color. A text in which
each ESC is followed by another character than `[` has no part in such a sequence, whatever stands
before or after it: none starts in it, and deleting the sequences around it leaves it as it is.
-/

set_option autoImplicit false
set_option relaxedAutoImplicit false

namespace BooleanSearch

section Escapes

variable {text after sequence : Text}

/-- A character that may stand between the bracket and the `m` of an escape sequence. -/
def isParameter (c : Char) : Bool := c.isDigit || c == ';'

def IsEscapeSequence (text : Text) : Prop :=
  ∃ parameters : Text,
    parameters.all isParameter ∧ text = '\x1b' :: '[' :: (parameters ++ ['m'])

def afterEscape? : Text → Option Text
  | '\x1b' :: '[' :: rest =>
    match rest.dropWhile isParameter with
    | 'm' :: after => some after
    | _ => none
  | _ => none

private theorem afterEscape?_eq_some_iff :
    afterEscape? text = some after ↔
      ∃ sequence, IsEscapeSequence sequence ∧ text = sequence ++ after := by
  constructor
  · intro h
    unfold afterEscape? at h
    split at h
    · rename_i rest
      split at h
      · rename_i after' hrest
        obtain rfl := Option.some.inj h
        have hsplit := List.takeWhile_append_dropWhile (p := isParameter) (l := rest)
        rw [hrest] at hsplit
        refine ⟨'\x1b' :: '[' :: (rest.takeWhile isParameter ++ ['m']),
          ⟨_, List.all_takeWhile, rfl⟩, ?_⟩
        simp [hsplit]
      · simp at h
    · simp at h
  · rintro ⟨sequence, ⟨parameters, hparameters, rfl⟩, rfl⟩
    have hrest : (parameters ++ ['m'] ++ after).dropWhile isParameter = 'm' :: after := by
      rw [List.append_assoc, List.dropWhile_append_of_pos (List.all_eq_true.1 hparameters)]
      rfl
    simp only [afterEscape?, List.cons_append, hrest]

private theorem length_lt_of_afterEscape? (h : afterEscape? text = some after) :
    after.length < text.length := by
  obtain ⟨sequence, ⟨parameters, -, rfl⟩, rfl⟩ := afterEscape?_eq_some_iff.1 h
  simp only [List.length_cons, List.length_append]
  omega

/-- The text without its escape sequences, found from left to right. -/
def deleteEscapes (text : Text) : Text :=
  match text with
  | [] => []
  | c :: rest =>
    match _h : afterEscape? (c :: rest) with
    | some after => deleteEscapes after
    | none => c :: deleteEscapes rest
termination_by text.length
decreasing_by
  · exact length_lt_of_afterEscape? _h
  · simp

theorem deleteEscapes_sequence_append (h : IsEscapeSequence sequence) (after : Text) :
    deleteEscapes (sequence ++ after) = deleteEscapes after := by
  have hafter : afterEscape? (sequence ++ after) = some after :=
    afterEscape?_eq_some_iff.2 ⟨sequence, h, rfl⟩
  obtain ⟨parameters, -, rfl⟩ := h
  rw [List.cons_append] at hafter ⊢
  rw [deleteEscapes]
  split
  · rename_i after' hafter'
    rw [hafter] at hafter'
    rw [Option.some.inj hafter']
  · rename_i hnone
    rw [hafter] at hnone
    simp at hnone

private theorem deleteEscapes_cons {c : Char} {rest : Text}
    (h : ∀ sequence, IsEscapeSequence sequence → ¬ sequence <+: c :: rest) :
    deleteEscapes (c :: rest) = c :: deleteEscapes rest := by
  rw [deleteEscapes]
  split
  · rename_i after hafter
    obtain ⟨sequence, hsequence, htext⟩ := afterEscape?_eq_some_iff.1 hafter
    exact absurd ⟨after, htext.symm⟩ (h sequence hsequence)
  · rfl

end Escapes

section Inert

variable {text : Text}

/-- An escape character of the text is followed, in the text, by a character other than `[`. -/
def IsInert : Text → Prop
  | [] => True
  | c :: rest => (c = '\x1b' → ∃ d ∈ rest.head?, d ≠ '[') ∧ IsInert rest

theorem isInert_of_not_mem (h : '\x1b' ∉ text) : IsInert text := by
  induction text with
  | nil => trivial
  | cons c text ih =>
    obtain ⟨hc, htext⟩ := not_or.1 (mt List.mem_cons.2 h)
    exact ⟨fun heq => absurd heq.symm hc, ih htext⟩

theorem IsInert.append {other : Text} (h : IsInert text) (hother : IsInert other) :
    IsInert (text ++ other) := by
  induction text with
  | nil => exact hother
  | cons c text ih =>
    obtain ⟨hc, htext⟩ := h
    refine ⟨fun heq => ?_, ih htext⟩
    obtain ⟨d, hd, hne⟩ := hc heq
    exact ⟨d, List.mem_head?_append_of_mem_head? hd, hne⟩

theorem isInert_flatMap {α : Type} {f : α → Text} {l : List α} (h : ∀ a ∈ l, IsInert (f a)) :
    IsInert (l.flatMap f) := by
  induction l with
  | nil => trivial
  | cons a l ih =>
    rw [List.forall_mem_cons] at h
    rw [List.flatMap_cons]
    exact h.1.append (ih h.2)

theorem isInert_intercalate {separator : Text} {texts : List Text} (hseparator : IsInert separator)
    (h : ∀ text ∈ texts, IsInert text) : IsInert (separator.intercalate texts) := by
  induction texts with
  | nil => trivial
  | cons text texts ih =>
    rw [List.forall_mem_cons] at h
    cases texts with
    | nil =>
      rw [List.intercalate_singleton]
      exact h.1
    | cons next texts =>
      rw [List.intercalate_cons_cons]
      exact (h.1.append hseparator).append (ih h.2)

private theorem IsInert.not_isPrefix_append {c : Char} {rest sequence : Text}
    (h : IsInert (c :: rest)) (hsequence : IsEscapeSequence sequence) (after : Text) :
    ¬ sequence <+: c :: (rest ++ after) := by
  rintro ⟨end', hend⟩
  obtain ⟨parameters, -, rfl⟩ := hsequence
  obtain ⟨hc, hrest⟩ := List.cons.inj hend
  obtain ⟨d, hd, hne⟩ := h.1 hc.symm
  have hhead : (rest ++ after).head? = some d := List.mem_head?_append_of_mem_head? hd
  rw [← hrest] at hhead
  exact hne (Option.some.inj hhead).symm

theorem IsInert.deleteEscapes_append (h : IsInert text) (after : Text) :
    deleteEscapes (text ++ after) = text ++ deleteEscapes after := by
  induction text with
  | nil => rfl
  | cons c text ih =>
    rw [List.cons_append, deleteEscapes_cons fun _ hsequence => h.not_isPrefix_append hsequence _,
      ih h.2, List.cons_append]

theorem IsInert.not_isInfix {sequence : Text} (h : IsInert text)
    (hsequence : IsEscapeSequence sequence) : ¬ sequence <:+: text := by
  induction text with
  | nil =>
    intro hinfix
    obtain ⟨parameters, -, rfl⟩ := hsequence
    simp at hinfix
  | cons c text ih =>
    intro hinfix
    rcases List.infix_cons_iff.1 hinfix with hprefix | hinfix
    · have hnot := h.not_isPrefix_append hsequence []
      rw [List.append_nil] at hnot
      exact hnot hprefix
    · exact ih h.2 hinfix

end Inert

end BooleanSearch
