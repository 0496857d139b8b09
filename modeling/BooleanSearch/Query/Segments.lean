import BooleanSearch.Query.Piece
import BooleanSearch.Query.Tokens
import BooleanSearch.Text.Quoted

/-!
# Cutting a query into terms

A query is read from the left. At each position the token that starts there, if one does, ends the
current term and is consumed; otherwise the character belongs to the term. So the earliest token
wins, terms may be empty, and no term holds a token.
-/

set_option autoImplicit false
set_option relaxedAutoImplicit false

namespace BooleanSearch

def Tokens.split (tokens : Tokens) (text : Text) : Chain Text :=
  match text with
  | [] => .last []
  | c :: rest =>
    match _h : tokens.read? (c :: rest) with
    | some (op, after) => .link [] op (tokens.split after)
    | none => (tokens.split rest).mapHead (c :: ·)
termination_by text.length
decreasing_by
  · exact Tokens.length_lt_of_read? _h
  · simp

theorem Tokens.split_of_read? {tokens : Tokens} {c : Char} {rest after : Text} {op : Operator}
    (h : tokens.read? (c :: rest) = some (op, after)) :
    tokens.split (c :: rest) = .link [] op (tokens.split after) := by
  rw [Tokens.split]
  split
  · rename_i op' after' h'
    obtain ⟨rfl, rfl⟩ : op = op' ∧ after = after' := by simpa [h] using h'
    rfl
  · rename_i h'
    simp [h] at h'

theorem Tokens.split_of_read?_eq_none {tokens : Tokens} {c : Char} {rest : Text}
    (h : tokens.read? (c :: rest) = none) :
    tokens.split (c :: rest) = (tokens.split rest).mapHead (c :: ·) := by
  rw [Tokens.split]
  split
  · rename_i h'
    simp [h] at h'
  · rfl

/-- A query cut into pieces: one term alone, or several pieces in order. -/
inductive Segments where
  | lone (term : Text)
  | joined (pieces : List (Piece Text))
  deriving DecidableEq

namespace Segments

def ofChain : Chain Text → Segments
  | .last term => .lone term
  | .link term op rest => .joined (Chain.link term op rest).pieces

theorem ofChain_injective {c d : Chain Text} (h : ofChain c = ofChain d) : c = d := by
  cases c <;> cases d
  · simpa [ofChain] using h
  · simp [ofChain] at h
  · simp [ofChain] at h
  · exact Chain.pieces_injective (by simpa [ofChain] using h)

def pieces : Segments → List (Piece Text)
  | .lone term => [.operand term]
  | .joined pieces => pieces

theorem pieces_ofChain (chain : Chain Text) : (ofChain chain).pieces = chain.pieces := by
  cases chain <;> rfl

/-- The segments of a query text; the empty text has none. -/
def ofText? (tokens : Tokens) (text : Text) : Option Segments :=
  if text = [] then none else some (ofChain (tokens.split text))

theorem ofText?_of_ne_nil {tokens : Tokens} {text : Text} (h : text ≠ []) :
    ofText? tokens text = some (ofChain (tokens.split text)) := if_neg h

def describe : Segments → Text
  | .lone term => quoted term
  | .joined pieces =>
    ['['] ++ [',', ' '].intercalate (pieces.map (Piece.describe quoted)) ++ [']']

end Segments

end BooleanSearch
