import BooleanSearch.Proofs.Text.Printed
import BooleanSearch.Query.Grouping

set_option autoImplicit false
set_option relaxedAutoImplicit false

namespace BooleanSearch

private theorem Operator.name_append_inj {op op' : Operator} {rest rest' : Text}
    (h : op.name ++ rest = op'.name ++ rest') : op = op' ∧ rest = rest' := by
  cases op <;> cases op'
  · exact ⟨rfl, List.append_cancel_left h⟩
  · exact absurd (Option.some.inj (congrArg List.head? h)) (by decide)
  · exact absurd (Option.some.inj (congrArg List.head? h)) (by decide)
  · exact ⟨rfl, List.append_cancel_left h⟩

section Pieces

variable {α β : Type} {print : α → Text} {key : α → β} {separator : Text}

private theorem Piece.map_id : Piece.map (id : α → α) = id := by
  funext piece
  cases piece <;> rfl

/-- Lists of pieces are read alike if their operands are, and if no operand looks like an operator
that stands in the list. -/
theorem readAlike_pieces {pieces others : List (Piece α)}
    (hseparator : ∃ c ∈ separator.head?, c ≠ ']')
    (hstart : ∀ a, ∃ c ∈ (print a).head?, c ≠ ']')
    (hname : ∀ (a : α) (op : Operator) (rest rest' : Text), FollowsEntry separator ']' rest' →
      print a ++ rest ≠ op.name ++ rest')
    (hoperand : ∀ a b, .operand a ∈ pieces → .operand b ∈ others →
      ReadAlike (FollowsEntry separator ']') print key a b) (Follows : Text → Prop) :
    ReadAlike Follows (printEntries (Piece.describe print) separator ']')
      (List.map (Piece.map key)) pieces others := by
  refine readAlike_printEntries hseparator ?_ ?_ Follows
  · rintro (a | (_ | _))
    · exact hstart a
    · exact ⟨'A', rfl, by decide⟩
    · exact ⟨'O', rfl, by decide⟩
  · intro p hp q hq rest rest' hrest hrest' h
    cases p with
    | operand a =>
      cases q with
      | operand b =>
        obtain ⟨hkey, heq⟩ := hoperand a b hp hq hrest hrest' h
        exact ⟨congrArg Piece.operand hkey, heq⟩
      | operator op => exact absurd h (hname a op rest rest' hrest')
    | operator op =>
      cases q with
      | operand b => exact absurd h.symm (hname b op rest' rest hrest)
      | operator op' =>
        obtain ⟨rfl, heq⟩ := Operator.name_append_inj h
        exact ⟨rfl, heq⟩

end Pieces

private theorem quoted_append_ne_name (text : Text) (op : Operator) (rest rest' : Text) :
    quoted text ++ rest ≠ op.name ++ rest' := by
  intro h
  cases op
  · exact absurd (Option.some.inj (congrArg List.head? h)) (by decide)
  · exact absurd (Option.some.inj (congrArg List.head? h)) (by decide)

theorem Segments.describe_injective {segments other : Segments}
    (h : segments.describe = other.describe) : segments = other := by
  cases segments with
  | lone term =>
    cases other with
    | lone term' =>
      have hterm := (readAlike_quoted (fun _ => True) term term').key_eq trivial h
      exact congrArg lone hterm
    | joined pieces' => exact absurd (congrArg List.head? h) (by simp [describe, quoted])
  | joined pieces =>
    cases other with
    | lone term' => exact absurd (congrArg List.head? h) (by simp [describe, quoted])
    | joined pieces' =>
      have halike : ReadAlike (fun _ => True)
          (printEntries (Piece.describe quoted) [',', ' '] ']') (List.map (Piece.map id))
          pieces pieces' :=
        readAlike_pieces ⟨',', rfl, by decide⟩ (fun _ => ⟨'"', rfl, by decide⟩)
          (fun text op rest rest' _ => quoted_append_ne_name text op rest rest')
          (fun text text' _ _ => readAlike_quoted _ text text') _
      have hpieces := halike.key_eq trivial (List.cons.inj h).2
      rw [Piece.map_id, List.map_id, List.map_id] at hpieces
      exact congrArg joined hpieces

namespace Run

def tagText (tag : Option Operator) : Text := tag.elim ['-'] Operator.name

private theorem tagText_append_inj {tag tag' : Option Operator} {rest rest' : Text}
    (h : tagText tag ++ rest = tagText tag' ++ rest') : tag = tag' ∧ rest = rest' := by
  have hname : ∀ (op : Operator) (rest rest' : Text), '-' :: rest ≠ op.name ++ rest' := by
    intro op rest rest' h
    cases op
    · exact absurd (Option.some.inj (congrArg List.head? h)) (by decide)
    · exact absurd (Option.some.inj (congrArg List.head? h)) (by decide)
  cases tag with
  | none =>
    cases tag' with
    | none => exact ⟨rfl, (List.cons.inj h).2⟩
    | some op' => exact absurd h (hname op' _ _)
  | some op =>
    cases tag' with
    | none => exact absurd h.symm (hname op _ _)
    | some op' =>
      obtain ⟨rfl, hrest⟩ := Operator.name_append_inj h
      exact ⟨rfl, hrest⟩

private theorem describe_append (run : Run) (rest : Text) :
    run.describe ++ rest =
      tagText run.tag ++ '(' :: (printEntries quoted [',', ' '] ')' run.terms ++ rest) := by
  simp [describe, tagText, printEntries]

private theorem head?_describe (run : Run) : ∃ c ∈
    ['-', 'A', 'O'], run.describe.head? = some c := by
  obtain ⟨tag, terms⟩ := run
  rcases tag with - | (_ | _)
  · exact ⟨'-', by decide, rfl⟩
  · exact ⟨'A', by decide, rfl⟩
  · exact ⟨'O', by decide, rfl⟩

private theorem describe_ne_cons (run : Run) {c : Char} (hc : c ∉ ['-', 'A', 'O']) (text : Text) :
    run.describe ≠ c :: text := by
  intro h
  obtain ⟨d, hd, hhead⟩ := run.head?_describe
  rw [h] at hhead
  obtain rfl : c = d := Option.some.inj hhead
  exact hc hd

private theorem readAlike_describe (Follows : Text → Prop) (run other : Run) :
    ReadAlike Follows describe id run other := by
  intro rest rest' hrest hrest' h
  rw [describe_append, describe_append] at h
  obtain ⟨htag, hlist⟩ := tagText_append_inj h
  have halike : ReadAlike Follows (printEntries quoted [',', ' '] ')') (List.map id)
      run.terms other.terms :=
    readAlike_printEntries ⟨',', rfl, by decide⟩ (fun _ => ⟨'"', rfl, by decide⟩)
      (fun term _ term' _ => readAlike_quoted _ term term') Follows
  obtain ⟨hterms, heq⟩ := halike hrest hrest' (List.cons.inj hlist).2
  rw [List.map_id, List.map_id] at hterms
  obtain ⟨tag, terms⟩ := run
  obtain ⟨tag', terms'⟩ := other
  obtain rfl : tag = tag' := htag
  obtain rfl : terms = terms' := hterms
  exact ⟨rfl, heq⟩

private theorem describe_append_ne_name (run : Run) (op : Operator) (rest : Text) {rest' : Text}
    (h : FollowsEntry [' '] ']' rest') : run.describe ++ rest ≠ op.name ++ rest' := by
  intro heq
  rw [describe_append] at heq
  have htag : tagText run.tag ++ _ = tagText (some op) ++ rest' := heq
  obtain ⟨-, rfl⟩ := tagText_append_inj htag
  rcases h with hseparator | hclose
  · obtain ⟨text, htext⟩ := hseparator
    exact absurd (List.cons.inj htext).1 (by decide)
  · exact absurd (Option.some.inj hclose) (by decide)

end Run

namespace Grouping

theorem describe_injective {grouping other : Grouping} (h : grouping.describe = other.describe) :
    grouping = other := by
  cases grouping with
  | lone term =>
    cases other with
    | lone term' =>
      exact congrArg lone ((readAlike_quoted (fun _ => True) term term').key_eq trivial h)
    | single run' => exact absurd h.symm (run'.describe_ne_cons (by decide) _)
    | mixed pieces' => exact absurd (congrArg List.head? h) (by simp [describe, quoted])
  | single run =>
    cases other with
    | lone term' => exact absurd h (run.describe_ne_cons (by decide) _)
    | single run' =>
      exact congrArg single ((run.readAlike_describe (fun _ => True) run').key_eq trivial h)
    | mixed pieces' => exact absurd h (run.describe_ne_cons (by decide) _)
  | mixed pieces =>
    cases other with
    | lone term' => exact absurd (congrArg List.head? h) (by simp [describe, quoted])
    | single run' => exact absurd h.symm (run'.describe_ne_cons (by decide) _)
    | mixed pieces' =>
      have hstart : ∀ run : Run, ∃ c ∈ run.describe.head?, c ≠ ']' := by
        intro run
        obtain ⟨c, hc, hhead⟩ := run.head?_describe
        refine ⟨c, hhead, ?_⟩
        rintro rfl
        exact absurd hc (by decide)
      have halike : ReadAlike (fun _ => True)
          (printEntries (Piece.describe Run.describe) [' '] ']') (List.map (Piece.map id))
          pieces pieces' :=
        readAlike_pieces ⟨' ', rfl, by decide⟩ hstart
          (fun run op rest _ hrest' => run.describe_append_ne_name op rest hrest')
          (fun run run' _ _ => run.readAlike_describe _ run') _
      have hpieces := halike.key_eq trivial (List.cons.inj h).2
      rw [Piece.map_id, List.map_id, List.map_id] at hpieces
      exact congrArg mixed hpieces

end Grouping

end BooleanSearch
