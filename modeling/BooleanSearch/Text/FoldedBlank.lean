import BooleanSearch.Text.Blank
import BooleanSearch.Text.CaseFold

set_option autoImplicit false
set_option relaxedAutoImplicit false

namespace BooleanSearch

private def FoldRun.clearOfBlanks (run : FoldRun) : Bool :=
  blankRanges.all fun r =>
    (r.2 < run.first || run.last < r.1) &&
      (r.2 < run.image || run.image + (run.last - run.first) < r.1)

private theorem clearOfBlanks_of_mem {run : FoldRun} (h : run ∈ foldRuns) :
    run.clearOfBlanks = true := by
  have hall : foldRuns.all FoldRun.clearOfBlanks = true := by decide +kernel
  exact List.all_eq_true.1 hall run h

private theorem inRanges_blank_eq_false {run : FoldRun} {n : Nat} (hrun : run.clearOfBlanks = true)
    (hn : (run.first ≤ n ∧ n ≤ run.last) ∨
      (run.image ≤ n ∧ n ≤ run.image + (run.last - run.first))) :
    inRanges blankRanges n = false := by
  cases h : inRanges blankRanges n with
  | false => rfl
  | true =>
    obtain ⟨r, hr, hlo, hhi⟩ := exists_range_of_inRanges h
    have hclear := List.all_eq_true.1 hrun r hr
    simp only [Bool.and_eq_true, Bool.or_eq_true, decide_eq_true_eq] at hclear
    omega

private theorem isBlank_toLower {c : Char} (h : c.toNat < 0x80) :
    isBlank c.toLower = isBlank c := by
  have hall : ∀ n < 0x80, isBlank (Char.ofNat n).toLower = isBlank (Char.ofNat n) := by decide
  simpa using hall c.toNat h

private theorem isBlank_ofNat {n : Nat} (h : inRanges blankRanges n = false) :
    isBlank (Char.ofNat n) = false := by
  rw [Char.ofNat]
  by_cases hvalid : n.isValidChar
  · rw [dif_pos hvalid]
    exact h
  · rw [dif_neg hvalid]
    decide

theorem isBlank_fold (c : Char) : isBlank (fold c) = isBlank c := by
  unfold fold
  split
  · rename_i h
    exact isBlank_toLower h
  · split
    · rename_i run hfind
      have hclear := clearOfBlanks_of_mem (List.mem_of_find?_eq_some hfind)
      have hmoves := List.find?_some hfind
      simp only [FoldRun.moves, Bool.and_eq_true, decide_eq_true_eq] at hmoves
      have himage : inRanges blankRanges (run.image + (c.toNat - run.first)) = false :=
        inRanges_blank_eq_false hclear (Or.inr (by omega))
      have hself : isBlank c = false := inRanges_blank_eq_false hclear (Or.inl (by omega))
      rw [isBlank_ofNat himage, hself]
    · rfl

private theorem toLower_of_isBlank {c : Char} (h : c.toNat < 0x80) (hc : isBlank c) :
    c.toLower = c := by
  have hall : ∀ n < 0x80, isBlank (Char.ofNat n) → (Char.ofNat n).toLower = Char.ofNat n := by
    decide
  simpa [hc] using hall c.toNat h

theorem fold_of_isBlank {c : Char} (hc : isBlank c) : fold c = c := by
  unfold fold
  split
  · rename_i h
    exact toLower_of_isBlank h hc
  · split
    · rename_i run hfind
      have hclear := clearOfBlanks_of_mem (List.mem_of_find?_eq_some hfind)
      have hmoves := List.find?_some hfind
      simp only [FoldRun.moves, Bool.and_eq_true, decide_eq_true_eq] at hmoves
      have hself : isBlank c = false := inRanges_blank_eq_false hclear (Or.inl hmoves.1)
      rw [hself] at hc
      exact absurd hc Bool.false_ne_true
    · rfl

theorem isBlank_key (mode : CaseMode) (c : Char) : isBlank (mode.key c) = isBlank c := by
  cases mode
  · rfl
  · exact isBlank_fold c

end BooleanSearch
