import BooleanSearch.Text.Basic
import BooleanSearch.Text.CodeRange

set_option autoImplicit false
set_option relaxedAutoImplicit false

namespace BooleanSearch

/-- The code points with the property White_Space. -/
def blankRanges : List (Nat × Nat) :=
  [(0x9, 0xd), (0x20, 0x20), (0x85, 0x85), (0xa0, 0xa0), (0x1680, 0x1680), (0x2000, 0x200a),
    (0x2028, 0x2029), (0x202f, 0x202f), (0x205f, 0x205f), (0x3000, 0x3000)]

def isBlank (c : Char) : Bool := inRanges blankRanges c.toNat

def trimStart (text : Text) : Text := text.dropWhile isBlank

def trimEnd (text : Text) : Text := (trimStart text.reverse).reverse

def trim (text : Text) : Text := trimEnd (trimStart text)

theorem trimStart_suffix (text : Text) : trimStart text <:+ text := List.dropWhile_suffix isBlank

theorem trim_isPrefix_trimStart (text : Text) : trim text <+: trimStart text := by
  rw [← List.reverse_suffix, trim, trimEnd, List.reverse_reverse]
  exact trimStart_suffix _

theorem trim_isInfix (text : Text) : trim text <:+: text :=
  (trim_isPrefix_trimStart text).isInfix.trans (trimStart_suffix text).isInfix

theorem trimStart_eq_self {text : Text} (h : ∀ c ∈ text.head?, ¬ isBlank c) :
    trimStart text = text := by
  cases text with
  | nil => rfl
  | cons c text => exact List.dropWhile_cons_of_neg (h c rfl)

theorem trim_eq_self {text : Text} (hhead : ∀ c ∈ text.head?, ¬ isBlank c)
    (hlast : ∀ c ∈ text.getLast?, ¬ isBlank c) : trim text = text := by
  have hreverse : trimStart text.reverse = text.reverse :=
    trimStart_eq_self (by rwa [List.head?_reverse])
  rw [trim, trimStart_eq_self hhead, trimEnd, hreverse, List.reverse_reverse]

theorem trimStart_append_of_blank {blanks : Text} (h : ∀ c ∈ blanks, isBlank c) (text : Text) :
    trimStart (blanks ++ text) = trimStart text := List.dropWhile_append_of_pos h

theorem trimEnd_append_of_blank {blanks : Text} (h : ∀ c ∈ blanks, isBlank c) (text : Text) :
    trimEnd (text ++ blanks) = trimEnd text := by
  have hreverse : ∀ c ∈ blanks.reverse, isBlank c := fun c hc => h c (List.mem_reverse.1 hc)
  rw [trimEnd, List.reverse_append, trimStart_append_of_blank hreverse, trimEnd]

theorem trim_append_append_of_blank {before after : Text} (hbefore : ∀ c ∈ before, isBlank c)
    (hafter : ∀ c ∈ after, isBlank c) (text : Text) :
    trim (before ++ text ++ after) = trim text := by
  have hnil : trimStart after = [] := by
    have happend := trimStart_append_of_blank hafter []
    rwa [List.append_nil] at happend
  have hstart : trimStart (text ++ after) =
      if trimStart text = [] then [] else trimStart text ++ after := by
    rw [trimStart, List.dropWhile_append, ← trimStart, ← trimStart, hnil]
    simp only [List.isEmpty_iff]
  rw [trim, List.append_assoc, trimStart_append_of_blank hbefore, hstart, trim]
  split
  · rename_i htext
    rw [htext]
  · exact trimEnd_append_of_blank hafter _

theorem not_isBlank_of_mem_head?_trimStart {text : Text} {c : Char}
    (h : c ∈ (trimStart text).head?) : ¬ isBlank c := by
  have hnot := List.head?_dropWhile_not isBlank text
  rw [← trimStart, Option.mem_def.1 h] at hnot
  exact Bool.eq_false_iff.1 hnot

theorem not_isBlank_of_mem_head?_trim {text : Text} {c : Char} (h : c ∈ (trim text).head?) :
    ¬ isBlank c := by
  have hstart : c ∈ (trimStart text).head? := by
    obtain ⟨rest, hrest⟩ := trim_isPrefix_trimStart text
    rw [← hrest, List.head?_append, Option.mem_def.1 h]
    rfl
  exact not_isBlank_of_mem_head?_trimStart hstart

theorem not_isBlank_of_mem_getLast?_trim {text : Text} {c : Char}
    (h : c ∈ (trim text).getLast?) : ¬ isBlank c := by
  rw [trim, trimEnd, List.getLast?_reverse] at h
  exact not_isBlank_of_mem_head?_trimStart h

end BooleanSearch
