import BooleanSearch.Proofs.Pattern.Occurrence
import BooleanSearch.Query.Rendering

set_option autoImplicit false
set_option relaxedAutoImplicit false

namespace BooleanSearch

def Tokens.IsSpaced (tokens : Tokens) : Prop :=
  ∀ op, (∃ c ∈ (tokens.token op).head?, isBlank c) ∧ ∃ c ∈ (tokens.token op).getLast?, isBlank c

theorem Tokens.isSpaced_standard : Tokens.standard.IsSpaced := by
  intro op
  cases op
  · exact ⟨⟨' ', rfl, rfl⟩, ' ', rfl, rfl⟩
  · exact ⟨⟨' ', rfl, rfl⟩, ' ', rfl, rfl⟩

namespace Chain

variable {tokens : Tokens}

private theorem exists_first_term (hspaced : tokens.IsSpaced) {chain : Chain Text} {c : Char}
    (h : c ∈ (chain.render tokens).head?) (hc : ¬ isBlank c) :
    ∃ term ∈ (operands chain.pieces).head?, c ∈ term.head? := by
  cases chain with
  | last term => exact ⟨term, rfl, h⟩
  | link term op rest =>
    refine ⟨term, rfl, ?_⟩
    cases term with
    | cons d term => exact h
    | nil =>
      obtain ⟨⟨d, hd, hblank⟩, -⟩ := hspaced op
      rw [render, List.nil_append, List.head?_append, Option.mem_def.1 hd] at h
      obtain rfl : d = c := Option.some.inj h
      exact absurd hblank hc

private theorem exists_last_term (hspaced : tokens.IsSpaced) {chain : Chain Text} {c : Char}
    (h : c ∈ (chain.render tokens).getLast?) (hc : ¬ isBlank c) :
    ∃ term ∈ (operands chain.pieces).getLast?, c ∈ term.getLast? := by
  induction chain with
  | last term => exact ⟨term, rfl, h⟩
  | link term op rest ih =>
    obtain ⟨-, d, hd, hblank⟩ := hspaced op
    have hrest : c ∈ (rest.render tokens).getLast? := by
      rw [render, List.getLast?_append, List.getLast?_append, Option.mem_def.1 hd] at h
      cases hlast : (rest.render tokens).getLast? with
      | some e =>
        rw [hlast] at h
        exact h
      | none =>
        rw [hlast] at h
        obtain rfl : d = c := Option.some.inj h
        exact absurd hblank hc
    obtain ⟨final, hfinal, hend⟩ := ih hrest
    refine ⟨final, ?_, hend⟩
    rw [operands_pieces_link, List.getLast?_cons, Option.mem_def.1 hfinal]
    rfl

end Chain

theorem Segments.exists_end_terms {tokens : Tokens} (hspaced : tokens.IsSpaced) {text : Text}
    (htext : text ≠ []) (hhead : ∀ c ∈ text.head?, ¬ isBlank c)
    (hlast : ∀ c ∈ text.getLast?, ¬ isBlank c) :
    ∃ segments first last, ofText? tokens text = some segments ∧
      (operands segments.pieces).head? = some first ∧
      (operands segments.pieces).getLast? = some last ∧
      (∃ c ∈ first.head?, ¬ isBlank c) ∧ ∃ c ∈ last.getLast?, ¬ isBlank c := by
  have hrender := tokens.render_split text
  obtain ⟨c, hc⟩ := Option.ne_none_iff_exists'.1 (mt List.head?_eq_none_iff.1 htext)
  obtain ⟨d, hd⟩ := Option.ne_none_iff_exists'.1 (mt List.getLast?_eq_none_iff.1 htext)
  obtain ⟨first, hfirst, hbegin⟩ :=
    Chain.exists_first_term hspaced (hrender.symm ▸ hc) (hhead c hc)
  obtain ⟨last, hfinal, hend⟩ :=
    Chain.exists_last_term hspaced (hrender.symm ▸ hd) (hlast d hd)
  refine ⟨.ofChain (tokens.split text), first, last, ofText?_of_ne_nil htext, ?_, ?_,
    ⟨c, hbegin, hhead c hc⟩, d, hend, hlast d hd⟩
  · rw [pieces_ofChain]
    exact hfirst
  · rw [pieces_ofChain]
    exact hfinal

private theorem Fits.isBlank_of_forall {mode : CaseMode} {c : Char} {part : Text}
    (h : Fits mode c part) (hpart : ∀ d ∈ part, isBlank d) : isBlank c := by
  by_contra hc
  obtain ⟨d, rfl, hkey⟩ := (fits_of_not_blank hc).1 h
  have hd : isBlank (mode.key d) := by
    rw [isBlank_key]
    exact hpart d List.mem_cons_self
  rw [hkey, isBlank_key] at hd
  exact hc hd

private theorem Occurs.isBlank_of_mem {mode : CaseMode} {term text : Text}
    (h : Occurs mode term text)
    (htext : ∀ c ∈ text, isBlank c) {c : Char} (hc : c ∈ term) : isBlank c := by
  obtain ⟨parts, hparts, hstand⟩ := h
  have hblank : ∀ part ∈ parts, ∀ d ∈ part, isBlank d := by
    intro part hpart d hd
    exact htext d (hstand.subset (List.mem_flatten.2 ⟨part, hpart, hd⟩))
  clear hstand
  induction hparts with
  | nil => exact absurd hc List.not_mem_nil
  | cons hpart hparts ih =>
    rw [List.forall_mem_cons] at hblank
    rcases List.mem_cons.1 hc with rfl | hc
    · exact hpart.isBlank_of_forall hblank.1
    · exact ih hc hblank.2

theorem Pattern.not_occursIn_blank {term : Text} {c : Char} (hc : c ∈ term) (hblank : ¬ isBlank c)
    (mode : CaseMode) : ¬ (Pattern.ofTerm term).occursIn mode [' '] := by
  rw [occursIn_ofTerm_iff]
  intro hoccurs
  have hspace : ∀ d ∈ [' '], isBlank d := List.forall_mem_singleton.2 rfl
  exact hblank (hoccurs.isBlank_of_mem hspace hc)

end BooleanSearch
