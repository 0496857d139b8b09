import BooleanSearch.Query.Rendering
import Mathlib.Data.List.Infix
import Mathlib.Logic.ExistsUnique

set_option autoImplicit false
set_option relaxedAutoImplicit false

namespace BooleanSearch

instance decidableForallOperator {p : Operator → Prop} [DecidablePred p] :
    Decidable (∀ op, p op) :=
  decidable_of_iff (p .and ∧ p .or)
    ⟨fun h op => by cases op; exacts [h.1, h.2], fun h => ⟨h .and, h .or⟩⟩

/-- No token starts in the text before the offset. -/
def Tokens.ClearBefore (tokens : Tokens) (offset : Nat) (text : Text) : Prop :=
  ∀ n < offset, ∀ op, ¬ tokens.token op <+: text.drop n

instance (tokens : Tokens) (offset : Nat) (text : Text) :
    Decidable (tokens.ClearBefore offset text) := by
  unfold Tokens.ClearBefore
  infer_instance

/-- From the start of each term on, no token starts before the term ends; an operator is AND exactly
if the token of AND stands at its place. -/
def Chain.IsLeftmost (tokens : Tokens) : Chain Text → Prop
  | .last term => ∀ op, ¬ tokens.token op <:+: term
  | .link term op rest =>
    tokens.ClearBefore term.length ((Chain.link term op rest).render tokens) ∧
      (op = .and ↔ tokens.and <+: tokens.token op ++ rest.render tokens) ∧ rest.IsLeftmost tokens

instance Chain.decidableIsLeftmost (tokens : Tokens) :
    (chain : Chain Text) → Decidable (chain.IsLeftmost tokens)
  | .last term => inferInstanceAs (Decidable (∀ op, ¬ tokens.token op <:+: term))
  | .link term op rest =>
    have := rest.decidableIsLeftmost tokens
    inferInstanceAs (Decidable
      (tokens.ClearBefore term.length ((Chain.link term op rest).render tokens) ∧
        (op = .and ↔ tokens.and <+: tokens.token op ++ rest.render tokens) ∧
          rest.IsLeftmost tokens))

variable {tokens : Tokens}

namespace Tokens

private theorem clearBefore_succ_cons {n : Nat} {c : Char} {text : Text} :
    tokens.ClearBefore (n + 1) (c :: text) ↔
      tokens.read? (c :: text) = none ∧ tokens.ClearBefore n text := by
  simp only [ClearBefore, Nat.forall_lt_succ_left, List.drop_zero, List.drop_succ_cons,
    read?_eq_none_iff]

private theorem clearBefore_length_iff {text : Text} :
    tokens.ClearBefore text.length text ↔ ∀ op, ¬ tokens.token op <:+: text := by
  induction text with
  | nil => simp [ClearBefore, tokens.token_ne_nil]
  | cons c text ih =>
    rw [List.length_cons, clearBefore_succ_cons, ih, read?_eq_none_iff]
    simp only [List.infix_cons_iff, not_or, forall_and]

private theorem ClearBefore.token_free {term text : Text}
    (h : tokens.ClearBefore term.length (term ++ text)) (op : Operator) :
    ¬ tokens.token op <:+: term := by
  refine clearBefore_length_iff.1 (fun n hn op' hstart => h n hn op' ?_) op
  rw [List.drop_append_of_le_length hn.le]
  exact hstart.trans (List.prefix_append _ _)

private theorem split_append {term text : Text}
    (h : tokens.ClearBefore term.length (term ++ text)) :
    tokens.split (term ++ text) = (tokens.split text).mapHead (term ++ ·) := by
  induction term with
  | nil => cases hsplit : tokens.split text <;> simp [Chain.mapHead, hsplit]
  | cons c term ih =>
    rw [List.cons_append, List.length_cons, clearBefore_succ_cons] at h
    rw [List.cons_append, split_of_read?_eq_none h.1, ih h.2, Chain.mapHead_mapHead]
    rfl

end Tokens

namespace Chain

private theorem IsLeftmost.mapHead_cons {c : Char} {chain : Chain Text} (h : chain.IsLeftmost tokens)
    (hread : tokens.read? (c :: chain.render tokens) = none) :
    (chain.mapHead (c :: ·)).IsLeftmost tokens := by
  cases chain with
  | last term =>
    intro op
    rw [List.infix_cons_iff, not_or]
    exact ⟨Tokens.read?_eq_none_iff.1 hread op, h op⟩
  | link term op rest =>
    obtain ⟨hclear, hop, hrest⟩ := h
    refine ⟨?_, hop, hrest⟩
    change tokens.ClearBefore (term.length + 1) (c :: (link term op rest).render tokens)
    exact Tokens.clearBefore_succ_cons.2 ⟨hread, hclear⟩

private theorem isLeftmost_split (tokens : Tokens) (text : Text) :
    (tokens.split text).IsLeftmost tokens := by
  induction text using Tokens.split.induct tokens with
  | case1 =>
    rw [Tokens.split]
    simp [IsLeftmost, tokens.token_ne_nil]
  | case2 c rest op after hread ih =>
    rw [Tokens.split_of_read? hread]
    obtain ⟨htext, hop⟩ := Tokens.read?_eq_some_iff.1 hread
    refine ⟨by simp [Tokens.ClearBefore], ?_, ih⟩
    rwa [Tokens.render_split, ← htext]
  | case3 c rest hread ih =>
    rw [Tokens.split_of_read?_eq_none hread]
    exact ih.mapHead_cons (by rwa [Tokens.render_split])

theorem IsLeftmost.split_render {chain : Chain Text} (h : chain.IsLeftmost tokens) :
    tokens.split (chain.render tokens) = chain := by
  induction chain with
  | last term =>
    have hclear : tokens.ClearBefore term.length (term ++ []) := by
      rw [List.append_nil]
      exact Tokens.clearBefore_length_iff.2 h
    have hsplit := Tokens.split_append hclear
    rwa [List.append_nil, Tokens.split, mapHead, List.append_nil] at hsplit
  | link term op rest ih =>
    obtain ⟨hclear, hop, hrest⟩ := h
    rw [render, List.append_assoc] at hclear ⊢
    rw [Tokens.split_append hclear]
    have hread : tokens.read? (tokens.token op ++ rest.render tokens) =
        some (op, rest.render tokens) := Tokens.read?_eq_some_iff.2 ⟨rfl, hop⟩
    obtain ⟨c, token, htoken⟩ := List.exists_cons_of_ne_nil (tokens.token_ne_nil op)
    rw [htoken, List.cons_append] at hread ⊢
    rw [Tokens.split_of_read? hread, ih hrest, mapHead, List.append_nil]

/-- The cut is the only leftmost reading of a text. -/
theorem split_eq_iff {text : Text} {chain : Chain Text} :
    tokens.split text = chain ↔ chain.render tokens = text ∧ chain.IsLeftmost tokens := by
  constructor
  · intro h
    rw [← h]
    exact ⟨tokens.render_split text, isLeftmost_split tokens text⟩
  · intro h
    rw [← h.1]
    exact h.2.split_render

private theorem IsLeftmost.token_free {chain : Chain Text} (h : chain.IsLeftmost tokens)
    {term : Text}
    (hterm : term ∈ operands chain.pieces) (op : Operator) : ¬ tokens.token op <:+: term := by
  induction chain with
  | last value =>
    obtain rfl := List.mem_singleton.1 hterm
    exact h op
  | link value op' rest ih =>
    obtain ⟨hclear, -, hrest⟩ := h
    rcases List.mem_cons.1 hterm with rfl | hterm
    · rw [render, List.append_assoc] at hclear
      exact hclear.token_free op
    · exact ih hrest hterm

end Chain

namespace Segments

/-- A text is cut into its leftmost reading and into nothing else. No term of the cut holds a token,
and the cut is one term alone exactly if no token stands in the text. -/
theorem ofText?_eq_some_iff_isLeftmost (tokens : Tokens) (text : Text) (htext : text ≠ []) :
    (∀ chain : Chain Text, ofText? tokens text = some (ofChain chain) ↔
        chain.render tokens = text ∧ chain.IsLeftmost tokens) ∧
      (∃! chain : Chain Text, ofText? tokens text = some (ofChain chain)) ∧
      (∀ chain : Chain Text, ofText? tokens text = some (ofChain chain) →
        ∀ term ∈ operands chain.pieces, ∀ op, ¬ tokens.token op <:+: term) ∧
      ((∃ term, ofText? tokens text = some (lone term)) ↔
        ∀ op, ¬ tokens.token op <:+: text) := by
  have hiff : ∀ chain : Chain Text, ofText? tokens text = some (ofChain chain) ↔
      chain.render tokens = text ∧ chain.IsLeftmost tokens := by
    intro chain
    rw [ofText?_of_ne_nil htext, Option.some.injEq, ← Chain.split_eq_iff]
    exact ⟨ofChain_injective, congrArg ofChain⟩
  refine ⟨hiff, ⟨tokens.split text, ofText?_of_ne_nil htext, ?_⟩, ?_, ?_⟩
  · intro chain hchain
    rw [ofText?_of_ne_nil htext, Option.some.injEq] at hchain
    exact (ofChain_injective hchain).symm
  · intro chain hchain term hterm op
    exact ((hiff chain).1 hchain).2.token_free hterm op
  · constructor
    · intro h
      obtain ⟨term, hterm⟩ := h
      obtain ⟨hrender, hleftmost⟩ := (hiff (.last term)).1 hterm
      rwa [← hrender]
    · intro hclear
      exact ⟨text, (hiff (.last text)).2 ⟨rfl, hclear⟩⟩

theorem ofText?_overlapping_tokens :
    "xababay".toList ≠ [] ∧
      ofText? ⟨"aba".toList, "ab".toList, by decide, by decide⟩ "xababay".toList =
        some (ofChain (.link "x".toList .and (.last "bay".toList))) :=
  ⟨by decide, ((ofText?_eq_some_iff_isLeftmost _ _ (by decide)).1 _).2 ⟨by decide, by decide⟩⟩

end Segments

end BooleanSearch
