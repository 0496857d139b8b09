set_option autoImplicit false
set_option relaxedAutoImplicit false

namespace BooleanSearch

/-- A text is the list of its characters, in reading order. -/
abbrev Text := List Char

theorem isPrefixOf?_eq_some_iff {start text rest : Text} :
    start.isPrefixOf? text = some rest ↔ text = start ++ rest := by
  induction start generalizing text with
  | nil => exact Option.some_inj
  | cons s start ih =>
    cases text with
    | nil =>
      change none = some rest ↔ _
      simp
    | cons c text =>
      change (if s == c then start.isPrefixOf? text else none) = some rest ↔ _
      by_cases h : s = c
      · simp [h, ih]
      · simp [h, Ne.symm h]

/-- The text without `start` at its beginning, as often as it stands there. -/
def stripRepeated (start text : Text) : Text :=
  match start.isPrefixOf? text with
  | some rest => if rest.length < text.length then stripRepeated start rest else text
  | none => text
termination_by text.length

section Strip

variable {start text : Text}

theorem stripRepeated_of_not_isPrefix (h : ¬ start <+: text) : stripRepeated start text = text := by
  rw [stripRepeated]
  split
  · rename_i rest hrest
    exact absurd ⟨rest, (isPrefixOf?_eq_some_iff.1 hrest).symm⟩ h
  · rfl

theorem stripRepeated_append (h : start ≠ []) (text : Text) :
    stripRepeated start (start ++ text) = stripRepeated start text := by
  have hlength : text.length < (start ++ text).length := by
    have hpos := List.length_pos_iff.2 h
    rw [List.length_append]
    omega
  rw [stripRepeated, isPrefixOf?_eq_some_iff.2 rfl]
  exact if_pos hlength

theorem stripRepeated_replicate_append (hstart : start ≠ []) (h : ¬ start <+: text) (n : Nat) :
    stripRepeated start ((List.replicate n start).flatten ++ text) = text := by
  induction n with
  | zero => exact stripRepeated_of_not_isPrefix h
  | succ n ih =>
    rw [List.replicate_succ, List.flatten_cons, List.append_assoc, stripRepeated_append hstart, ih]

theorem exists_replicate_append_stripRepeated (h : start ≠ []) (text : Text) :
    ∃ n, text = (List.replicate n start).flatten ++ stripRepeated start text ∧
      ¬ start <+: stripRepeated start text := by
  induction hlength : text.length using Nat.strongRecOn generalizing text with
  | ind length ih =>
    by_cases hstart : start <+: text
    · obtain ⟨rest, rfl⟩ := hstart
      have hless : rest.length < length := by
        have hpos := List.length_pos_iff.2 h
        rw [← hlength, List.length_append]
        omega
      obtain ⟨n, hrest, hnot⟩ := ih _ hless rest rfl
      rw [stripRepeated_append h]
      refine ⟨n + 1, ?_, hnot⟩
      rw [List.replicate_succ, List.flatten_cons, List.append_assoc, ← hrest]
    · rw [stripRepeated_of_not_isPrefix hstart]
      exact ⟨0, rfl, hstart⟩

end Strip

def unlines (lines : List Text) : Text := lines.flatMap (· ++ ['\n'])

end BooleanSearch
