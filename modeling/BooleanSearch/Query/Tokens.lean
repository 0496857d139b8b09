import BooleanSearch.Query.Error

set_option autoImplicit false
set_option relaxedAutoImplicit false

namespace BooleanSearch

/-- The tokens that stand for the operators in a query. -/
structure Tokens where
  and : Text
  or : Text
  and_ne_nil : and ≠ []
  or_ne_nil : or ≠ []
  deriving DecidableEq

namespace Tokens

/-- The tokens that a searcher starts with; the spaces around them are part of them. -/
def standard : Tokens where
  and := " && ".toList
  or := " || ".toList
  and_ne_nil := by decide
  or_ne_nil := by decide

/-- The pair of tokens, refused if one is empty; of two empty ones AND is reported. -/
def ofTexts (and or : Text) : Except QueryError Tokens :=
  if hand : and = [] then .error (.emptyToken .and)
  else if hor : or = [] then .error (.emptyToken .or)
  else .ok ⟨and, or, hand, hor⟩

def token (tokens : Tokens) : Operator → Text
  | .and => tokens.and
  | .or => tokens.or

theorem token_ne_nil (tokens : Tokens) (op : Operator) : tokens.token op ≠ [] := by
  cases op
  · exact tokens.and_ne_nil
  · exact tokens.or_ne_nil

/-- The same tokens except that the given one, if any and not empty, stands for the operator. -/
def replace (tokens : Tokens) (op : Operator) : Option Text → Tokens
  | none => tokens
  | some token =>
    if h : token = [] then tokens
    else
      match op with
      | .and => { tokens with and := token, and_ne_nil := h }
      | .or => { tokens with or := token, or_ne_nil := h }

theorem ofTexts_eq_ok_iff {and or : Text} {tokens : Tokens} :
    ofTexts and or = .ok tokens ↔
      (and ≠ [] ∧ or ≠ []) ∧ tokens.and = and ∧ tokens.or = or := by
  rw [ofTexts]
  split
  · rename_i hand
    simp [hand]
  · rename_i hand
    split
    · rename_i hor
      simp [hor]
    · rename_i hor
      constructor
      · intro h
        obtain rfl := Except.ok.inj h
        exact ⟨⟨hand, hor⟩, rfl, rfl⟩
      · intro h
        obtain ⟨-, rfl, rfl⟩ := h
        rfl

theorem token_replace_self (tokens : Tokens) (op : Operator) (replacement : Option Text) :
    (tokens.replace op replacement).token op =
      (replacement.filter (· ≠ [])).getD (tokens.token op) := by
  cases replacement with
  | none => rfl
  | some token =>
    by_cases h : token = []
    · simp [replace, h, Option.filter_some]
    · cases op <;> simp [replace, Tokens.token, h, Option.filter_some]

theorem token_replace_of_ne {op op' : Operator} (h : op ≠ op') (tokens : Tokens)
    (replacement : Option Text) : (tokens.replace op replacement).token op' = tokens.token op' := by
  cases replacement with
  | none => rfl
  | some token =>
    by_cases htoken : token = []
    · simp [replace, htoken]
    · rw [replace, dif_neg htoken]
      cases op <;> cases op'
      · exact absurd rfl h
      · rfl
      · rfl
      · exact absurd rfl h

theorem replace_eq_self {tokens : Tokens} {op : Operator} {replacement : Option Text}
    (h : ∀ token ∈ replacement, token = [] ∨ token = tokens.token op) :
    tokens.replace op replacement = tokens := by
  cases replacement with
  | none => rfl
  | some token =>
    rw [replace]
    split
    · rfl
    · rename_i hne
      obtain rfl := (h token rfl).resolve_left hne
      cases op <;> rfl

def read? (tokens : Tokens) (text : Text) : Option (Operator × Text) :=
  match tokens.and.isPrefixOf? text with
  | some rest => some (.and, rest)
  | none =>
    match tokens.or.isPrefixOf? text with
    | some rest => some (.or, rest)
    | none => none

theorem eq_append_of_read? {tokens : Tokens} {text rest : Text} {op : Operator}
    (h : tokens.read? text = some (op, rest)) : text = tokens.token op ++ rest := by
  simp only [read?] at h
  split at h
  · rename_i hand
    obtain ⟨rfl, rfl⟩ : Operator.and = op ∧ _ = rest := by simpa using h
    exact isPrefixOf?_eq_some_iff.1 hand
  · split at h
    · rename_i hor
      obtain ⟨rfl, rfl⟩ : Operator.or = op ∧ _ = rest := by simpa using h
      exact isPrefixOf?_eq_some_iff.1 hor
    · simp at h

theorem read?_eq_some_iff {tokens : Tokens} {text rest : Text} {op : Operator} :
    tokens.read? text = some (op, rest) ↔
      text = tokens.token op ++ rest ∧ (op = .and ↔ tokens.and <+: text) := by
  constructor
  · intro h
    have htext := eq_append_of_read? h
    refine ⟨htext, ?_⟩
    cases op with
    | and => simp [htext, token]
    | or =>
      simp only [read?] at h
      split at h
      · simp at h
      · rename_i hand
        simp only [reduceCtorEq, false_iff]
        rintro ⟨after, hafter⟩
        rw [isPrefixOf?_eq_some_iff.2 hafter.symm] at hand
        exact absurd hand (by simp)
  · rintro ⟨htext, hop⟩
    cases op with
    | and =>
      have hand : tokens.and.isPrefixOf? text = some rest := isPrefixOf?_eq_some_iff.2 htext
      simp [read?, hand]
    | or =>
      have hand : tokens.and.isPrefixOf? text = none := by
        refine Option.eq_none_iff_forall_ne_some.2 fun after hafter => ?_
        have hstart : tokens.and <+: text := ⟨after, (isPrefixOf?_eq_some_iff.1 hafter).symm⟩
        exact absurd (hop.2 hstart) (by simp)
      have hor : tokens.or.isPrefixOf? text = some rest := isPrefixOf?_eq_some_iff.2 htext
      simp [read?, hand, hor]

theorem read?_eq_none_iff {tokens : Tokens} {text : Text} :
    tokens.read? text = none ↔ ∀ op, ¬ tokens.token op <+: text := by
  constructor
  · rintro h op ⟨rest, rfl⟩
    have hread : ∃ read, tokens.read? (tokens.token op ++ rest) = some read := by
      by_cases hand : tokens.and <+: tokens.token op ++ rest
      · obtain ⟨after, hafter⟩ := hand
        exact ⟨(.and, after), read?_eq_some_iff.2 ⟨hafter.symm, by simp [← hafter]⟩⟩
      · refine ⟨(op, rest), read?_eq_some_iff.2 ⟨rfl, ?_⟩⟩
        simp only [hand, iff_false]
        rintro rfl
        exact hand (List.prefix_append _ _)
    obtain ⟨read, hread⟩ := hread
    rw [h] at hread
    exact absurd hread (by simp)
  · intro h
    refine Option.eq_none_iff_forall_ne_some.2 fun ⟨op, rest⟩ hread => h op ⟨rest, ?_⟩
    exact (eq_append_of_read? hread).symm

theorem length_lt_of_read? {tokens : Tokens} {text rest : Text} {op : Operator}
    (h : tokens.read? text = some (op, rest)) : rest.length < text.length := by
  have := List.length_pos_iff.2 (tokens.token_ne_nil op)
  rw [eq_append_of_read? h, List.length_append]
  omega

end Tokens

end BooleanSearch
