import BooleanSearch.Query.Rendering

/-!
# The scan for tokens

A text can also be cut round by round: a round looks for the first token, takes what stands before
it as a term, and goes on after it. Nothing in a round keeps a token from being empty, and an empty
one is found again at the place where it was left. So the scan of a text ends exactly if no token
is empty; then it yields the cut of the text.
-/

set_option autoImplicit false
set_option relaxedAutoImplicit false

namespace BooleanSearch

def offset? (token : Text) : Text → Option Nat
  | [] => if token = [] then some 0 else none
  | c :: text => if token <+: c :: text then some 0 else (offset? token text).map (· + 1)

/-- The first token in a text: its offset and its operator, AND where both tokens stand. -/
def firstToken? (token : Operator → Text) (text : Text) : Option (Nat × Operator) :=
  match offset? (token .and) text, offset? (token .or) text with
  | some m, some n => if n < m then some (n, .or) else some (m, .and)
  | some m, none => some (m, .and)
  | none, some n => some (n, .or)
  | none, none => none

/-- The scan of a text ends with these terms and operators: no token is left, or the first one
closes a term and the scan of what follows it ends. -/
inductive Scans (token : Operator → Text) : Text → Chain Text → Prop
  | stop {text : Text} (h : firstToken? token text = none) : Scans token text (.last text)
  | round {text : Text} {n : Nat} {op : Operator} {rest : Chain Text}
      (h : firstToken? token text = some (n, op))
      (hrest : Scans token (text.drop (n + (token op).length)) rest) :
      Scans token text (.link (text.take n) op rest)

section Offset

variable {token text : Text}

private theorem offset?_of_isPrefix (h : token <+: text) : offset? token text = some 0 := by
  cases text with
  | nil => exact if_pos (List.prefix_nil.1 h)
  | cons c text => exact if_pos h

private theorem offset?_cons_of_not_isPrefix {c : Char} (h : ¬ token <+: c :: text) :
    offset? token (c :: text) = (offset? token text).map (· + 1) := if_neg h

private theorem prefix_of_offset?_eq_zero (h : offset? token text = some 0) : token <+: text := by
  cases text with
  | nil =>
    have htoken : token = [] := by simpa [offset?] using h
    exact List.prefix_nil.2 htoken
  | cons c text =>
    by_cases hstart : token <+: c :: text
    · exact hstart
    · rw [offset?_cons_of_not_isPrefix hstart] at h
      obtain ⟨m, -, hm⟩ := Option.map_eq_some_iff.1 h
      exact absurd hm (Nat.succ_ne_zero m)

private theorem add_length_le_of_offset? {n : Nat} (h : offset? token text = some n) :
    n + token.length ≤ text.length := by
  induction text generalizing n with
  | nil =>
    obtain ⟨rfl, rfl⟩ : token = [] ∧ 0 = n := by simpa [offset?] using h
    exact Nat.le_refl 0
  | cons c text ih =>
    by_cases hstart : token <+: c :: text
    · rw [offset?_of_isPrefix hstart] at h
      obtain rfl : 0 = n := Option.some.inj h
      rw [Nat.zero_add]
      exact hstart.length_le
    · rw [offset?_cons_of_not_isPrefix hstart] at h
      obtain ⟨m, hm, rfl⟩ := Option.map_eq_some_iff.1 h
      have hle := ih hm
      rw [List.length_cons]
      omega

end Offset

section Rounds

variable {token : Operator → Text} {text : Text} {n : Nat} {op : Operator}

private theorem offset?_of_firstToken? (h : firstToken? token text = some (n, op)) :
    offset? (token op) text = some n := by
  rw [firstToken?] at h
  split at h
  · rename_i hand hor
    split at h
    · obtain ⟨rfl, rfl⟩ := Prod.mk.inj (Option.some.inj h)
      exact hor
    · obtain ⟨rfl, rfl⟩ := Prod.mk.inj (Option.some.inj h)
      exact hand
  · rename_i hand _
    obtain ⟨rfl, rfl⟩ := Prod.mk.inj (Option.some.inj h)
    exact hand
  · rename_i hor
    obtain ⟨rfl, rfl⟩ := Prod.mk.inj (Option.some.inj h)
    exact hor
  · exact absurd h (by simp)

private theorem firstToken?_eq_none_iff :
    firstToken? token text = none ↔ ∀ op, offset? (token op) text = none := by
  constructor
  · intro h op
    rw [firstToken?] at h
    split at h
    · split at h <;> simp at h
    · simp at h
    · simp at h
    · cases op <;> assumption
  · intro h
    rw [firstToken?, h .and, h .or]

private theorem firstToken?_cons_of_not_isPrefix {c : Char} (h : ∀ op, ¬ token op <+: c :: text) :
    firstToken? token (c :: text) = (firstToken? token text).map fun (n, op) => (n + 1, op) := by
  rw [firstToken?, firstToken?, offset?_cons_of_not_isPrefix (h .and),
    offset?_cons_of_not_isPrefix (h .or)]
  cases offset? (token .and) text <;> cases offset? (token .or) text
  · rfl
  · rfl
  · rfl
  · simp only [Option.map_some, Nat.add_lt_add_iff_right]
    split <;> rfl

theorem length_drop_lt_of_firstToken? (h : firstToken? token text = some (n, op))
    (hne : token op ≠ []) : (text.drop (n + (token op).length)).length < text.length := by
  have hle := add_length_le_of_offset? (offset?_of_firstToken? h)
  have hpos := List.length_pos_iff.2 hne
  rw [List.length_drop]
  omega

theorem Scans.unique {chain other : Chain Text} (h : Scans token text chain)
    (hother : Scans token text other) : chain = other := by
  induction h generalizing other with
  | stop h =>
    cases hother with
    | stop => rfl
    | round h' => exact absurd (h.symm.trans h') (by simp)
  | round h hrest ih =>
    cases hother with
    | stop h' => exact absurd (h'.symm.trans h) (by simp)
    | round h' hrest' =>
      obtain ⟨rfl, rfl⟩ := Prod.mk.inj (Option.some.inj (h.symm.trans h'))
      rw [ih hrest']

private theorem exists_scans (h : ∀ op, token op ≠ []) (text : Text) :
    ∃ chain, Scans token text chain := by
  -- Each round leaves less of the text.
  induction hlength : text.length using Nat.strongRecOn generalizing text with
  | ind length ih =>
    cases hfirst : firstToken? token text with
    | none => exact ⟨.last text, .stop hfirst⟩
    | some first =>
      obtain ⟨n, op⟩ := first
      have hless := length_drop_lt_of_firstToken? hfirst (h op)
      rw [hlength] at hless
      obtain ⟨rest, hrest⟩ := ih _ hless _ rfl
      exact ⟨.link (text.take n) op rest, .round hfirst hrest⟩

private theorem not_scans_of_eq_nil (h : token op = []) {chain : Chain Text} :
    ¬ Scans token text chain := by
  intro hscans
  induction hscans with
  | @stop text hnone =>
    have hstart : token op <+: text := by
      rw [h]
      exact List.nil_prefix
    have hoffset := firstToken?_eq_none_iff.1 hnone op
    rw [offset?_of_isPrefix hstart] at hoffset
    exact absurd hoffset (by simp)
  | round _ _ ih => exact ih

/-- The scan of a text ends exactly if no token is empty. -/
theorem exists_scans_iff : (∃ chain, Scans token text chain) ↔ ∀ op, token op ≠ [] := by
  constructor
  · intro h op hnil
    obtain ⟨chain, hscans⟩ := h
    exact not_scans_of_eq_nil hnil hscans
  · intro h
    exact exists_scans h text

private theorem Scans.cons {c : Char} {chain : Chain Text} (h : ∀ op, ¬ token op <+: c :: text)
    (hscans : Scans token text chain) : Scans token (c :: text) (chain.mapHead (c :: ·)) := by
  have hfirst := firstToken?_cons_of_not_isPrefix h
  cases hscans with
  | stop hnone =>
    rw [hnone] at hfirst
    exact .stop hfirst
  | @round _ n op rest hsome hrest =>
    rw [hsome] at hfirst
    have hdrop : (c :: text).drop (n + 1 + (token op).length) =
        text.drop (n + (token op).length) := by
      rw [Nat.add_right_comm]
      rfl
    rw [← hdrop] at hrest
    exact .round hfirst hrest

end Rounds

private theorem Tokens.firstToken?_of_read? {tokens : Tokens} {text rest : Text} {op : Operator}
    (h : tokens.read? text = some (op, rest)) : firstToken? tokens.token text = some (0, op) := by
  obtain ⟨htext, hand⟩ := read?_eq_some_iff.1 h
  have hoffset : offset? (tokens.token op) text = some 0 :=
    offset?_of_isPrefix (htext ▸ List.prefix_append _ _)
  cases op with
  | and =>
    rw [firstToken?, hoffset]
    cases offset? (tokens.token .or) text <;> rfl
  | or =>
    rw [firstToken?, hoffset]
    cases hother : offset? (tokens.token .and) text with
    | none => rfl
    | some m =>
      -- AND does not stand at the start, so its first token comes later.
      have hm : m ≠ 0 := by
        rintro rfl
        exact absurd (hand.2 (prefix_of_offset?_eq_zero hother)) (by simp)
      exact if_pos (Nat.pos_of_ne_zero hm)

theorem Tokens.scans_split (tokens : Tokens) (text : Text) :
    Scans tokens.token text (tokens.split text) := by
  induction text using Tokens.split.induct tokens with
  | case1 =>
    rw [Tokens.split]
    refine .stop (firstToken?_eq_none_iff.2 fun op => ?_)
    exact if_neg (tokens.token_ne_nil op)
  | case2 c rest op after hread ih =>
    rw [Tokens.split_of_read? hread]
    have hfirst := Tokens.firstToken?_of_read? hread
    have hafter : (c :: rest).drop (0 + (tokens.token op).length) = after := by
      rw [Tokens.eq_append_of_read? hread, Nat.zero_add, List.drop_left]
    rw [← hafter] at ih ⊢
    exact .round hfirst ih
  | case3 c rest hread ih =>
    rw [Tokens.split_of_read?_eq_none hread]
    exact ih.cons (Tokens.read?_eq_none_iff.1 hread)

private theorem Chain.length_operators_mul_le (tokens : Tokens) {size : Text → Nat}
    (hsize : ∀ text rest, size (text ++ rest) = size text + size rest) (chain : Chain Text) :
    (operators chain.pieces).length * min (size tokens.and) (size tokens.or) ≤
      size (chain.render tokens) := by
  induction chain with
  | last term => simp
  | link term op rest ih =>
    have hmin : min (size tokens.and) (size tokens.or) ≤ size (tokens.token op) := by
      cases op
      · exact Nat.min_le_left _ _
      · exact Nat.min_le_right _ _
    rw [operators_pieces_link, List.length_cons, render, hsize, hsize, Nat.succ_mul]
    omega

theorem Segments.length_operators_mul_le {tokens : Tokens} {size : Text → Nat}
    (hsize : ∀ text rest, size (text ++ rest) = size text + size rest) {text : Text}
    {segments : Segments} (h : segments ∈ ofText? tokens text) :
    (operators segments.pieces).length * min (size tokens.and) (size tokens.or) ≤ size text := by
  have htext : text ≠ [] := by
    rintro rfl
    exact absurd h (by simp [ofText?])
  rw [ofText?_of_ne_nil htext, Option.mem_some_iff] at h
  have hchain := Chain.length_operators_mul_le tokens hsize (tokens.split text)
  rwa [tokens.render_split, ← pieces_ofChain, h] at hchain

end BooleanSearch
