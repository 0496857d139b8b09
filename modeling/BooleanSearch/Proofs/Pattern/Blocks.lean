import BooleanSearch.Condition.Estimate
import BooleanSearch.Proofs.Condition.Compiled
import Mathlib.Data.List.SplitBy

/-!
# Blocks of a term

A term is made of maximal blocks, of blanks and of other characters in turn. To find it, the blanks
of a text need not be shared out among the blanks of the term: a block of blanks asks for no more
than a run of its length. Between two words the run is all the blanks that stand there, but at an
end of the term the blanks that are not needed may stay unused.
-/

set_option autoImplicit false
set_option relaxedAutoImplicit false

namespace BooleanSearch

def IsBlock (blank : Bool) (block : Text) : Prop := block ≠ [] ∧ ∀ c ∈ block, isBlank c = blank

/-- Blocks of the two kinds in turn, the first one of this kind. -/
def Alternate : Bool → List Text → Prop
  | _, [] => True
  | blank, block :: rest => IsBlock blank block ∧ Alternate (!blank) rest

def blocks (term : Text) : List Text := term.splitBy fun c d => isBlank c == isBlank d

/-- A part of a text that can stand for a block: for one of blanks, at least as many blanks, and for
another one characters that compare equal to its own one by one. -/
def BlockFits (mode : CaseMode) (block part : Text) : Prop :=
  if block.all isBlank then block.length ≤ part.length ∧ part.all isBlank
  else part.map mode.key = block.map mode.key

instance (mode : CaseMode) (block part : Text) : Decidable (BlockFits mode block part) :=
  inferInstanceAs (Decidable
    (if block.all isBlank then block.length ≤ part.length ∧ part.all isBlank
    else part.map mode.key = block.map mode.key))

/-- Consecutive parts of a text that stand for blocks, and what comes before and after them. -/
structure Placement (mode : CaseMode) (blocks : List Text) (text : Text) where
  before : Text
  parts : List Text
  after : Text
  fits : List.Forall₂ (BlockFits mode) blocks parts
  text_eq : before ++ parts.flatten ++ after = text

structure IsWholeRun (before run after : Text) : Prop where
  blank : run.all isBlank
  before_end : ∃ c ∈ before.getLast?, ¬ isBlank c
  after_start : ∃ c ∈ after.head?, ¬ isBlank c

variable {mode : CaseMode} {blank : Bool} {term block part : Text}

section Split

private theorem IsBlock.all_isBlank (h : IsBlock blank block) : block.all isBlank = blank := by
  obtain ⟨hne, hkind⟩ := h
  obtain ⟨c, block, rfl⟩ := List.exists_cons_of_ne_nil hne
  cases blank with
  | true => exact List.all_eq_true.2 hkind
  | false =>
    have hc := hkind c List.mem_cons_self
    rw [List.all_cons, hc, Bool.false_and]

private theorem Alternate.isBlock_of_mem {split : List Text} (h : Alternate blank split)
    (hblock : block ∈ split) : ∃ kind, IsBlock kind block := by
  induction split generalizing blank with
  | nil => exact absurd hblock List.not_mem_nil
  | cons first rest ih =>
    obtain ⟨hfirst, hrest⟩ := h
    rcases List.mem_cons.1 hblock with rfl | hblock
    · exact ⟨blank, hfirst⟩
    · exact ih hrest hblock

private theorem Alternate.of_append {left right : List Text} (h : Alternate blank (left ++ right)) :
    ∃ kind, Alternate kind right := by
  induction left generalizing blank with
  | nil => exact ⟨blank, h⟩
  | cons first left ih => exact ih h.2

private theorem isBlock_of_isChain {c : Char} {block : Text}
    (h : (c :: block).IsChain fun c d => (isBlank c == isBlank d) = true) :
    IsBlock (isBlank c) (c :: block) := by
  refine ⟨List.cons_ne_nil c block, ?_⟩
  induction block generalizing c with
  | nil => simp
  | cons d block ih =>
    obtain ⟨hcd, hrest⟩ := List.isChain_cons_cons.1 h
    have hkind : isBlank c = isBlank d := by simpa using hcd
    have hblock := ih hrest
    rw [← hkind] at hblock
    exact List.forall_mem_cons.2 ⟨rfl, hblock⟩

private theorem IsBlock.isChain (h : IsBlock blank block) :
    block.IsChain fun c d => (isBlank c == isBlank d) = true := by
  apply List.Pairwise.isChain
  apply List.pairwise_of_forall_mem_list
  intro c hc d hd
  rw [h.2 c hc, h.2 d hd]
  exact beq_self_eq_true blank

private theorem exists_alternate {split : List Text} (hne : [] ∉ split)
    (hsame : ∀ block ∈ split, block.IsChain fun c d => (isBlank c == isBlank d) = true)
    (hdiffer : split.IsChain fun block next => ∃ hblock hnext,
      (isBlank (block.getLast hblock) == isBlank (next.head hnext)) = false) :
    ∃ blank, Alternate blank split := by
  induction split with
  | nil => exact ⟨true, trivial⟩
  | cons block rest ih =>
    rw [List.mem_cons, not_or] at hne
    rw [List.forall_mem_cons] at hsame
    obtain ⟨c, block, rfl⟩ := List.exists_cons_of_ne_nil (Ne.symm hne.1)
    have hblock := isBlock_of_isChain hsame.1
    obtain ⟨kind, hrest⟩ := ih hne.2 hsame.2 hdiffer.tail
    refine ⟨isBlank c, hblock, ?_⟩
    cases rest with
    | nil => trivial
    | cons next rest =>
      obtain ⟨hlast, hhead, hkinds⟩ := (List.isChain_cons_cons.1 hdiffer).1
      rw [hblock.2 _ (List.getLast_mem hlast), hrest.1.2 _ (List.head_mem hhead)] at hkinds
      have hkind : kind = !isBlank c := by
        revert hkinds
        cases kind <;> cases isBlank c <;> simp
      rwa [← hkind]

private theorem Alternate.isChain {split : List Text} (h : Alternate blank split) :
    split.IsChain fun block next => ∃ hblock hnext,
      (isBlank (block.getLast hblock) == isBlank (next.head hnext)) = false := by
  induction split generalizing blank with
  | nil => exact List.isChain_nil
  | cons block rest ih =>
    obtain ⟨hblock, hrest⟩ := h
    cases rest with
    | nil => exact List.isChain_singleton _
    | cons next rest =>
      refine List.isChain_cons_cons.2 ⟨⟨hblock.1, hrest.1.1, ?_⟩, ih hrest⟩
      rw [hblock.2 _ (List.getLast_mem _), hrest.1.2 _ (List.head_mem _)]
      cases blank <;> rfl

/-- The blocks are the only way to cut a term into blocks of the two kinds in turn. -/
theorem blocks_eq_iff {split : List Text} :
    blocks term = split ↔ split.flatten = term ∧ ∃ blank, Alternate blank split := by
  rw [blocks, List.splitBy_eq_iff]
  constructor
  · intro h
    obtain ⟨rfl, hne, hsame, hdiffer⟩ := h
    exact ⟨rfl, exists_alternate hne hsame hdiffer⟩
  · intro h
    obtain ⟨rfl, blank, halternate⟩ := h
    refine ⟨rfl, ?_, ?_, halternate.isChain⟩
    · intro hnil
      obtain ⟨kind, hne, -⟩ := halternate.isBlock_of_mem hnil
      exact hne rfl
    · intro block hblock
      obtain ⟨kind, hkind⟩ := halternate.isBlock_of_mem hblock
      exact hkind.isChain

private theorem flatten_blocks (term : Text) : (blocks term).flatten = term :=
    (blocks_eq_iff.1 rfl).1

private theorem exists_alternate_blocks (term : Text) : ∃ blank, Alternate blank (blocks term) :=
  (blocks_eq_iff.1 rfl).2

end Split

section StandsFor

/-- The whole text is made of parts that stand for the characters of the term. -/
def StandsFor (mode : CaseMode) (term text : Text) : Prop :=
  ∃ parts, List.Forall₂ (Fits mode) term parts ∧ parts.flatten = text

theorem occurs_iff_exists_standsFor {text : Text} :
    Occurs mode term text ↔ ∃ part, StandsFor mode term part ∧ part <:+: text := by
  constructor
  · intro h
    obtain ⟨parts, hparts, hinfix⟩ := h
    exact ⟨parts.flatten, ⟨parts, hparts, rfl⟩, hinfix⟩
  · intro h
    obtain ⟨part, ⟨parts, hparts, rfl⟩, hinfix⟩ := h
    exact ⟨parts, hparts, hinfix⟩

namespace StandsFor

variable {c : Char} {text : Text}

theorem nil_iff : StandsFor mode [] text ↔ text = [] := by
  constructor
  · intro h
    obtain ⟨parts, hparts, rfl⟩ := h
    cases hparts
    rfl
  · intro h
    exact ⟨[], .nil, h.symm⟩

theorem cons_iff : StandsFor mode (c :: term) text ↔
    ∃ part rest, part ++ rest = text ∧ Fits mode c part ∧ StandsFor mode term rest := by
  constructor
  · intro h
    obtain ⟨parts, hparts, rfl⟩ := h
    cases hparts with
    | @cons _ part _ parts hpart hparts =>
      exact ⟨part, parts.flatten, rfl, hpart, parts, hparts, rfl⟩
  · intro h
    obtain ⟨part, rest, rfl, hpart, parts, hparts, rfl⟩ := h
    exact ⟨part :: parts, .cons hpart hparts, rfl⟩

theorem append_iff {first second : Text} : StandsFor mode (first ++ second) text ↔
    ∃ part rest, part ++ rest = text ∧ StandsFor mode first part ∧ StandsFor mode second rest := by
  induction first generalizing text with
  | nil => simp [nil_iff]
  | cons c first ih =>
    rw [List.cons_append, cons_iff]
    constructor
    · intro h
      obtain ⟨part, rest, rfl, hpart, hrest⟩ := h
      obtain ⟨part', rest, rfl, hfirst, hsecond⟩ := ih.1 hrest
      exact ⟨part ++ part', rest, List.append_assoc _ _ _,
        cons_iff.2 ⟨part, part', rfl, hpart, hfirst⟩, hsecond⟩
    · intro h
      obtain ⟨part, rest, rfl, hfirst, hsecond⟩ := h
      obtain ⟨part, part', rfl, hpart, hfirst⟩ := cons_iff.1 hfirst
      exact ⟨part, part' ++ rest, (List.append_assoc _ _ _).symm, hpart,
        ih.2 ⟨part', rest, rfl, hfirst, hsecond⟩⟩

theorem iff_of_blank (hne : block ≠ []) (hblock : ∀ c ∈ block, isBlank c) :
    StandsFor mode block text ↔ block.length ≤ text.length ∧ ∀ d ∈ text, isBlank d := by
  induction block generalizing text with
  | nil => exact absurd rfl hne
  | cons c block ih =>
    obtain ⟨hc, hrest⟩ := List.forall_mem_cons.1 hblock
    rw [cons_iff]
    by_cases hnil : block = []
    · subst hnil
      simp only [nil_iff, fits_of_blank hc]
      constructor
      · intro h
        obtain ⟨part, rest, rfl, ⟨hpart, hblank⟩, rfl⟩ := h
        have hlength := List.length_pos_iff.2 hpart
        rw [List.append_nil]
        exact ⟨hlength, hblank⟩
      · intro h
        have hpart : text ≠ [] := List.length_pos_iff.1 h.1
        exact ⟨text, [], List.append_nil text, ⟨hpart, h.2⟩, rfl⟩
    · simp only [ih hnil hrest, fits_of_blank hc]
      constructor
      · intro h
        obtain ⟨part, rest, rfl, ⟨hpart, hblank⟩, hlength, hblank'⟩ := h
        have hone := List.length_pos_iff.2 hpart
        refine ⟨?_, List.forall_mem_append.2 ⟨hblank, hblank'⟩⟩
        rw [List.length_cons, List.length_append]
        omega
      · intro h
        obtain ⟨hlength, hblank⟩ := h
        cases text with
        | nil => exact absurd hlength (by simp)
        | cons d text =>
          rw [List.forall_mem_cons] at hblank
          -- One blank is enough for `c`, so all the others are left for the rest of the block.
          refine ⟨[d], text, rfl, ⟨List.cons_ne_nil d [], by simpa using hblank.1⟩, ?_, hblank.2⟩
          exact Nat.le_of_succ_le_succ hlength

private theorem iff_of_not_blank (hblock : ∀ c ∈ block, ¬ isBlank c) :
    StandsFor mode block text ↔ text.map mode.key = block.map mode.key := by
  induction block generalizing text with
  | nil => simp [nil_iff]
  | cons c block ih =>
    obtain ⟨hc, hrest⟩ := List.forall_mem_cons.1 hblock
    simp only [cons_iff, ih hrest, fits_of_not_blank hc]
    constructor
    · intro h
      obtain ⟨part, rest, rfl, ⟨d, rfl, hkey⟩, hmap⟩ := h
      rw [List.singleton_append, List.map_cons, List.map_cons, hkey, hmap]
    · intro h
      cases text with
      | nil => exact absurd h (by simp)
      | cons d text =>
        rw [List.map_cons, List.map_cons, List.cons.injEq] at h
        exact ⟨[d], text, rfl, ⟨d, rfl, h.1⟩, h.2⟩

end StandsFor

private theorem IsBlock.standsFor_iff (h : IsBlock blank block) :
    StandsFor mode block part ↔ BlockFits mode block part := by
  rw [BlockFits, h.all_isBlank]
  cases blank with
  | true =>
    rw [StandsFor.iff_of_blank h.1 h.2, ← List.all_eq_true]
    rfl
  | false =>
    have hblock : ∀ c ∈ block, ¬ isBlank c := by
      intro c hc
      rw [h.2 c hc]
      exact Bool.false_ne_true
    exact StandsFor.iff_of_not_blank hblock

private theorem Alternate.standsFor_flatten_iff {split : List Text} (h : Alternate blank split)
    {text : Text} : StandsFor mode split.flatten text ↔
      ∃ parts, List.Forall₂ (BlockFits mode) split parts ∧ parts.flatten = text := by
  induction split generalizing blank text with
  | nil => simp [StandsFor.nil_iff, eq_comm]
  | cons block split ih =>
    obtain ⟨hblock, hsplit⟩ := h
    rw [List.flatten_cons, StandsFor.append_iff]
    constructor
    · intro h
      obtain ⟨part, rest, rfl, hpart, hrest⟩ := h
      obtain ⟨parts, hparts, rfl⟩ := (ih hsplit).1 hrest
      exact ⟨part :: parts, .cons (hblock.standsFor_iff.1 hpart) hparts, rfl⟩
    · intro h
      obtain ⟨parts, hparts, rfl⟩ := h
      cases hparts with
      | @cons _ part _ parts hpart hparts =>
        exact ⟨part, parts.flatten, rfl, hblock.standsFor_iff.2 hpart,
          (ih hsplit).2 ⟨parts, hparts, rfl⟩⟩

end StandsFor

private theorem IsBlock.of_blockFits (h : IsBlock blank block) (hpart : BlockFits mode block part) :
    IsBlock blank part := by
  have hlength := List.length_pos_iff.2 h.1
  rw [BlockFits, h.all_isBlank] at hpart
  cases blank with
  | true =>
    obtain ⟨hlonger, hblank⟩ := hpart
    have hpos : 0 < part.length := by omega
    exact ⟨List.length_pos_iff.1 hpos, List.all_eq_true.1 hblank⟩
  | false =>
    have hkeys : part.map mode.key = block.map mode.key := hpart
    have hsame : part.length = block.length := by
      simpa using congrArg List.length hkeys
    have hpos : 0 < part.length := by omega
    refine ⟨List.length_pos_iff.1 hpos, ?_⟩
    intro d hd
    have hkey : mode.key d ∈ block.map mode.key := by
      rw [← hkeys]
      exact List.mem_map_of_mem hd
    obtain ⟨c, hc, hcd⟩ := List.mem_map.1 hkey
    rw [← isBlank_key mode d, ← hcd, isBlank_key, h.2 c hc]

private theorem blockFits_of_blank (hblock : block.all isBlank) :
    BlockFits mode block part ↔ block.length ≤ part.length ∧ part.all isBlank := by
  rw [BlockFits, if_pos hblock]

private theorem exists_of_forall₂_append {α β : Type} {r : α → β → Prop} {left right : List α}
    {parts : List β} (h : List.Forall₂ r (left ++ right) parts) :
    ∃ leftParts rightParts, parts = leftParts ++ rightParts ∧
      List.Forall₂ r left leftParts ∧ List.Forall₂ r right rightParts := by
  refine ⟨parts.take left.length, parts.drop left.length, (List.take_append_drop _ _).symm, ?_, ?_⟩
  · have htake := List.forall₂_take left.length h
    rwa [List.take_left] at htake
  · have hdrop := List.forall₂_drop left.length h
    rwa [List.drop_left] at hdrop

private theorem isWholeRun_of_isBlock {left run right : Text} (hleft : IsBlock false left)
    (hrun : IsBlock true run) (hright : IsBlock false right) (before after : Text) :
    IsWholeRun (before ++ left) run (right ++ after) where
  blank := List.all_eq_true.2 hrun.2
  before_end := by
    refine ⟨left.getLast hleft.1, ?_, ?_⟩
    · rw [List.getLast?_append_of_ne_nil before hleft.1, List.getLast?_eq_some_getLast hleft.1]
      rfl
    · rw [hleft.2 _ (List.getLast_mem hleft.1)]
      exact Bool.false_ne_true
  after_start := by
    refine ⟨right.head hright.1, ?_, ?_⟩
    · rw [List.head?_append_of_ne_nil right hright.1, List.head?_eq_some_head hright.1]
      rfl
    · rw [hright.2 _ (List.head_mem hright.1)]
      exact Bool.false_ne_true

namespace Placement

variable {split left right : List Text} {text : Text}

/-- A term occurs exactly where its blocks can be placed. -/
theorem nonempty_iff_occurs :
    Nonempty (Placement mode (blocks term) text) ↔ Occurs mode term text := by
  obtain ⟨blank, halternate⟩ := exists_alternate_blocks term
  have hstands : ∀ part, StandsFor mode term part ↔
      ∃ parts, List.Forall₂ (BlockFits mode) (blocks term) parts ∧ parts.flatten = part := by
    intro part
    have hflatten : StandsFor mode (blocks term).flatten part ↔
        ∃ parts, List.Forall₂ (BlockFits mode) (blocks term) parts ∧ parts.flatten = part :=
      halternate.standsFor_flatten_iff
    rwa [flatten_blocks] at hflatten
  rw [occurs_iff_exists_standsFor]
  constructor
  · intro h
    obtain ⟨before, parts, after, hparts, htext⟩ := h
    exact ⟨parts.flatten, (hstands _).2 ⟨parts, hparts, rfl⟩, before, after, htext⟩
  · intro h
    obtain ⟨part, hpart, before, after, htext⟩ := h
    obtain ⟨parts, hparts, rfl⟩ := (hstands part).1 hpart
    exact ⟨before, parts, after, hparts, htext⟩

private theorem exists_isWholeRun (placement : Placement mode split text)
    (hsplit : Alternate blank split)
    (hblocks : split = left ++ block :: right) (hleft : left ≠ []) (hright : right ≠ [])
    (hblock : block.all isBlank) :
    ∃ leftParts run rightParts, placement.parts = leftParts ++ run :: rightParts ∧
      leftParts.length = left.length ∧ block.length ≤ run.length ∧
      IsWholeRun (placement.before ++ leftParts.flatten) run
        (rightParts.flatten ++ placement.after) := by
  obtain ⟨left, word, rfl⟩ := (List.eq_nil_or_concat' left).resolve_left hleft
  obtain ⟨next, right, rfl⟩ := List.exists_cons_of_ne_nil hright
  subst hblocks
  have hfits : List.Forall₂ (BlockFits mode) (left ++ word :: block :: next :: right)
      placement.parts := by
    simpa using placement.fits
  rw [List.append_assoc, List.singleton_append] at hsplit
  obtain ⟨kind, hword, hkind, hnext, -⟩ := hsplit.of_append
  obtain rfl : kind = false := by simpa using hkind.all_isBlank.symm.trans hblock
  obtain ⟨leftParts, fromWord, hparts, hleftParts, hfromWord⟩ := exists_of_forall₂_append hfits
  obtain ⟨wordPart, fromRun, hwordPart, hfromRun, rfl⟩ := List.forall₂_cons_left_iff.1 hfromWord
  obtain ⟨run, fromNext, hrun, hfromNext, rfl⟩ := List.forall₂_cons_left_iff.1 hfromRun
  obtain ⟨nextPart, rest, hnextPart, -, rfl⟩ := List.forall₂_cons_left_iff.1 hfromNext
  refine ⟨leftParts ++ [wordPart], run, nextPart :: rest, ?_, ?_, ?_, ?_⟩
  · rw [hparts, List.append_assoc, List.singleton_append]
  · rw [List.length_append, List.length_append, hleftParts.length_eq]
    rfl
  · exact ((blockFits_of_blank hblock).1 hrun).1
  · have hwhole := isWholeRun_of_isBlock (hword.of_blockFits hwordPart) (hkind.of_blockFits hrun)
      (hnext.of_blockFits hnextPart) (placement.before ++ leftParts.flatten)
      (rest.flatten ++ placement.after)
    simpa using hwhole

private theorem exists_later_start (placement : Placement mode split text)
    (hblocks : split = block :: right) (hblock : block.all isBlank) {skipped run : Text}
    {others : List Text} (hparts : placement.parts = (skipped ++ run) :: others)
    (hlength : block.length ≤ run.length) :
    ∃ other : Placement mode split text, other.before = placement.before ++ skipped ∧
      other.parts = run :: others ∧ other.after = placement.after := by
  have hfits := placement.fits
  have htext := placement.text_eq
  rw [hparts] at hfits htext
  subst hblocks
  obtain ⟨hfirst, hothers⟩ := List.forall₂_cons.1 hfits
  have hblank := ((blockFits_of_blank hblock).1 hfirst).2
  rw [List.all_append, Bool.and_eq_true] at hblank
  have hrun : BlockFits mode block run := (blockFits_of_blank hblock).2 ⟨hlength, hblank.2⟩
  have htext' :
      placement.before ++ skipped ++ (run :: others).flatten ++ placement.after = text := by
    simpa using htext
  exact ⟨⟨_, _, _, .cons hrun hothers, htext'⟩, rfl, rfl, rfl⟩

private theorem exists_earlier_end (placement : Placement mode split text)
    (hblocks : split = left ++ [block]) (hblock : block.all isBlank) {run skipped : Text}
    {others : List Text} (hparts : placement.parts = others ++ [run ++ skipped])
    (hlength : block.length ≤ run.length) :
    ∃ other : Placement mode split text, other.before = placement.before ∧
      other.parts = others ++ [run] ∧ other.after = skipped ++ placement.after := by
  have hfits := placement.fits
  have htext := placement.text_eq
  rw [hparts] at hfits htext
  subst hblocks
  -- The last block and its part come first in the reversed lists.
  rw [← List.forall₂_reverse_iff, List.reverse_append, List.reverse_append] at hfits
  obtain ⟨hlast, hothers⟩ := List.forall₂_cons.1 hfits
  have hblank := ((blockFits_of_blank hblock).1 hlast).2
  rw [List.all_append, Bool.and_eq_true] at hblank
  have hrun : BlockFits mode block run := (blockFits_of_blank hblock).2 ⟨hlength, hblank.1⟩
  have hfits' : List.Forall₂ (BlockFits mode) (left ++ [block]) (others ++ [run]) := by
    rw [← List.forall₂_reverse_iff, List.reverse_append, List.reverse_append]
    exact .cons hrun hothers
  have htext' : placement.before ++ (others ++ [run]).flatten ++ (skipped ++ placement.after) =
      text := by
    simpa using htext
  exact ⟨⟨_, _, _, hfits', htext'⟩, rfl, rfl, rfl⟩

end Placement

/-- The pattern of a term occurs exactly where the blocks of the term can be placed, and a term is
cut into blocks in one way only. Wherever they stand, a block of blanks between two words takes all
the blanks there, and one at an end may leave out the outer ones that it does not need. -/
theorem Condition.holds_term_iff_placement [Engine] (mode : CaseMode) (term candidate : Text) :
    (∀ split, blocks term = split ↔ split.flatten = term ∧ ∃ blank, Alternate blank split) ∧
    (∀ options : Options, options.caseMode = mode → ∀ condition,
      options.termCondition term = .ok condition → condition = .term mode (.ofTerm term)) ∧
    ((Condition.term mode (.ofTerm term)).holds candidate = true ↔
      Nonempty (Placement mode (blocks term) candidate)) ∧
    ∀ placement : Placement mode (blocks term) candidate,
      (∀ left block right, blocks term = left ++ block :: right → left ≠ [] → right ≠ [] →
        block.all isBlank →
          ∃ leftParts run rightParts, placement.parts = leftParts ++ run :: rightParts ∧
            leftParts.length = left.length ∧ block.length ≤ run.length ∧
            IsWholeRun (placement.before ++ leftParts.flatten) run
              (rightParts.flatten ++ placement.after)) ∧
      (∀ block right skipped run others, blocks term = block :: right → block.all isBlank →
        placement.parts = (skipped ++ run) :: others → block.length ≤ run.length →
          ∃ other : Placement mode (blocks term) candidate,
            other.before = placement.before ++ skipped ∧ other.parts = run :: others ∧
              other.after = placement.after) ∧
      ∀ block left skipped run others, blocks term = left ++ [block] → block.all isBlank →
        placement.parts = others ++ [run ++ skipped] → block.length ≤ run.length →
          ∃ other : Placement mode (blocks term) candidate, other.before = placement.before ∧
            other.parts = others ++ [run] ∧ other.after = skipped ++ placement.after := by
  refine ⟨fun split => blocks_eq_iff, ?_, ?_, fun placement => ⟨?_, ?_, ?_⟩⟩
  · rintro options rfl condition hcondition
    exact Options.build_eq_ok hcondition
  · rw [holds, Pattern.occursIn_ofTerm_iff, Placement.nonempty_iff_occurs]
  · intro left block right hblocks hleft hright hblock
    obtain ⟨blank, halternate⟩ := exists_alternate_blocks term
    exact placement.exists_isWholeRun halternate hblocks hleft hright hblock
  · intro block right skipped run others hblocks hblock hparts hlength
    exact placement.exists_later_start hblocks hblock hparts hlength
  · intro block left skipped run others hblocks hblock hparts hlength
    exact placement.exists_earlier_end hblocks hblock hparts hlength

def widePlacement : Placement .insensitive (blocks " a  b ".toList) "\t A \t\u3000b  y".toList where
  before := []
  parts := [['\t', ' '], ['A'], [' ', '\t', '\u3000'], ['b'], [' ', ' ']]
  after := ['y']
  fits := by decide
  text_eq := by decide

theorem Condition.holds_term_a_b :
    let term := " a  b ".toList
    let candidate := "\t A \t\u3000b  y".toList
    let options : Options := {}
    options.termCondition term = .ok (.term options.caseMode (.ofTerm term)) ∧
      (Condition.term .insensitive (.ofTerm term)).holds candidate = true ∧
      blocks term = [[' '], ['a'], [' ', ' '], ['b'], [' ']] ∧
      (∃ leftParts run rightParts, widePlacement.parts = leftParts ++ run :: rightParts ∧
        leftParts.length = 2 ∧ 2 ≤ run.length ∧
        IsWholeRun (widePlacement.before ++ leftParts.flatten) run
          (rightParts.flatten ++ widePlacement.after)) ∧
      (∃ other : Placement .insensitive (blocks term) candidate, other.before = ['\t'] ∧
        other.parts = [' '] :: widePlacement.parts.tail ∧ other.after = ['y']) ∧
      ∃ other : Placement .insensitive (blocks term) candidate, other.before = [] ∧
        other.parts = widePlacement.parts.dropLast ++ [[' ']] ∧ other.after = [' ', 'y'] := by
  intro term candidate options
  obtain ⟨-, hterm, hholds, hplaces⟩ := holds_term_iff_placement .insensitive term candidate
  obtain ⟨hwhole, hstart, hend⟩ := hplaces widePlacement
  have hcompile : ∃ condition, options.termCondition term = .ok condition :=
    exists_eq_ok_of_isOk (by decide +kernel)
  have hblocks : blocks term = [[' '], ['a'], [' ', ' '], ['b'], [' ']] := by decide
  refine ⟨?_, hholds.2 ⟨widePlacement⟩, hblocks, ?_, ?_, ?_⟩
  · obtain ⟨condition, hcompile⟩ := hcompile
    rw [hcompile, hterm options rfl condition hcompile]
  · exact hwhole [[' '], ['a']] [' ', ' '] [['b'], [' ']] hblocks (by decide) (by decide)
      (by decide)
  · exact hstart [' '] _ ['\t'] [' '] _ hblocks (by decide) rfl (by decide)
  · exact hend [' '] [[' '], ['a'], [' ', ' '], ['b']] [' '] [' ']
      [['\t', ' '], ['A'], [' ', '\t', '\u3000'], ['b']] hblocks (by decide) rfl (by decide)

end BooleanSearch
