import BooleanSearch.Query.Segments

set_option autoImplicit false
set_option relaxedAutoImplicit false

namespace BooleanSearch

namespace Chain

/-- The text of a chain of terms, with the tokens of its operators between them. -/
def render (tokens : Tokens) : Chain Text → Text
  | .last term => term
  | .link term op rest => term ++ tokens.token op ++ rest.render tokens

@[simp]
theorem render_mapHead_cons (tokens : Tokens) (c : Char) (chain : Chain Text) :
    (chain.mapHead (c :: ·)).render tokens = c :: chain.render tokens := by
  cases chain <;> simp [mapHead, render]

theorem infix_render_of_mem (tokens : Tokens) {chain : Chain Text} {term : Text}
    (h : term ∈ operands chain.pieces) : term <:+: chain.render tokens := by
  induction chain with
  | last value =>
    obtain rfl := List.mem_singleton.1 h
    exact List.infix_refl _
  | link value op rest ih =>
    rw [render]
    rcases List.mem_cons.1 h with rfl | h
    · have hfirst := List.prefix_append term (tokens.token op)
      exact (hfirst.trans (List.prefix_append _ _)).isInfix
    · exact List.infix_append_of_infix_right (ih h)

end Chain

/-- Terms and tokens, in order, make up the text that was cut. -/
theorem Tokens.render_split (tokens : Tokens) (text : Text) :
    (tokens.split text).render tokens = text := by
  induction text using Tokens.split.induct tokens with
  | case1 => simp [Tokens.split, Chain.render]
  | case2 c rest op after h ih =>
    rw [Tokens.split_of_read? h]
    simp [Chain.render, ih, ← Tokens.eq_append_of_read? h]
  | case3 c rest h ih =>
    rw [Tokens.split_of_read?_eq_none h]
    simp [ih]

end BooleanSearch
