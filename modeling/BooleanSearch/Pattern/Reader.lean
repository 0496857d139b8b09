import BooleanSearch.Pattern.Source

set_option autoImplicit false
set_option relaxedAutoImplicit false

namespace BooleanSearch

namespace Pattern

/-- The pattern that the text is the source of, if it is one. -/
def read? : Text → Option Pattern
  | [] => some []
  | '\\' :: 's' :: '+' :: text => (read? text).map (.blanks :: ·)
  | '\\' :: c :: text => if c ∈ metacharacters then (read? text).map (.char c :: ·) else none
  | c :: text => if c ∈ metacharacters then none else (read? text).map (.char c :: ·)

private theorem read?_escaped {c : Char} (h : c ∈ metacharacters) (text : Text) :
    read? ('\\' :: c :: text) = (read? text).map (.char c :: ·) := by
  have hs : c ≠ 's' := by
    rintro rfl
    exact absurd h (by decide)
  rw [read?]
  · simp [h]
  · rintro rest rfl
    simp_all

private theorem read?_plain {c : Char} (h : c ∉ metacharacters) (text : Text) :
    read? (c :: text) = (read? text).map (.char c :: ·) := by
  have hbackslash : c ≠ '\\' := by
    rintro rfl
    exact absurd (by decide) h
  rw [read?]
  · simp [h]
  · rintro rest rfl
    simp_all
  · rintro c' rest rfl
    simp_all

theorem read?_source (pattern : Pattern) : read? pattern.source = some pattern := by
  induction pattern with
  | nil => rfl
  | cons atom pattern ih =>
    rw [source] at ih ⊢
    rw [List.flatMap_cons]
    cases atom with
    | blanks =>
      change read? ('\\' :: 's' :: '+' :: pattern.flatMap Atom.source) = _
      rw [read?, ih]
      rfl
    | char c =>
      by_cases h : c ∈ metacharacters
      · simp [Atom.source, h, read?_escaped, ih]
      · simp [Atom.source, h, read?_plain, ih]

theorem source_injective {p q : Pattern} (h : p.source = q.source) : p = q := by
  have hread := read?_source p
  rw [h, read?_source] at hread
  exact (Option.some.inj hread).symm

end Pattern

end BooleanSearch
