import BooleanSearch.Pattern.Expression
import BooleanSearch.Pattern.Reader
import Mathlib.Data.List.Forall2

/-!
# Reading patterns back

The source text of a pattern reads as its atoms and nothing else, and that of an alternation as one
group for each pattern, whatever characters the terms hold that the patterns were made of. So two
source texts are the same only where the terms differ in nothing but their blanks.
-/

set_option autoImplicit false
set_option relaxedAutoImplicit false

namespace BooleanSearch

section Lexemes

variable {c : Char} {text : Text} {lexemes : List Lexeme}

private theorem lexemes?_escaped (h : c ∈ metacharacters) (text : Text) :
    lexemes? ('\\' :: c :: text) = (lexemes? text).map (.atom (.char c) :: ·) := by
  have hs : c ≠ 's' := by
    rintro rfl
    exact absurd h (by decide)
  rw [lexemes?, if_pos h]
  exact fun _ hc _ => hs hc

private theorem lexemes?_plain (h : c ∉ metacharacters) (text : Text) :
    lexemes? (c :: text) = (lexemes? text).map (.atom (.char c) :: ·) := by
  have hother : ∀ d ∈ metacharacters, c ≠ d := by
    rintro d hd rfl
    exact h hd
  have hbackslash := hother '\\' (by decide)
  have hopening := hother '(' (by decide)
  rw [lexemes?, if_neg h]
  · exact fun _ hc _ => hbackslash hc
  · exact fun _ _ hc _ => hbackslash hc
  · exact fun _ hc _ => hopening hc
  · exact hother ')' (by decide)
  · exact hother '|' (by decide)

private theorem lexemes?_append (h : lexemes? text = some lexemes) (after : Text) :
    lexemes? (text ++ after) = (lexemes? after).map (lexemes ++ ·) := by
  have hcons : ∀ (lexeme : Lexeme) (rest : Text) (read : List Lexeme),
      lexemes? (rest ++ after) = (lexemes? after).map (read ++ ·) →
        (lexemes? (rest ++ after)).map (lexeme :: ·) =
          (lexemes? after).map (lexeme :: read ++ ·) := by
    intro lexeme rest read hread
    rw [hread, Option.map_map]
    rfl
  -- No lexeme is cut short by the end of the text: what begins one there is refused.
  fun_induction lexemes? text generalizing lexemes with
  | case1 =>
    obtain rfl := Option.some.inj h
    simp
  | case2 rest ih | case5 rest ih | case6 rest ih | case7 rest ih =>
    obtain ⟨read, hread, rfl⟩ := Option.map_eq_some_iff.1 h
    exact hcons _ rest read (ih hread)
  | case3 c rest hs hc ih =>
    obtain ⟨read, hread, rfl⟩ := Option.map_eq_some_iff.1 h
    rw [List.cons_append, List.cons_append, lexemes?_escaped hc]
    exact hcons _ rest read (ih hread)
  | case4 | case8 => exact absurd h (by simp)
  | case9 c rest _ _ _ _ _ hc ih =>
    obtain ⟨read, hread, rfl⟩ := Option.map_eq_some_iff.1 h
    rw [List.cons_append, lexemes?_plain hc]
    exact hcons _ rest read (ih hread)

/-- A text that reads as a pattern has no lexemes but its atoms. -/
theorem lexemes?_of_read? {pattern : Pattern} (h : Pattern.read? text = some pattern) :
    lexemes? text = some (pattern.map .atom) := by
  fun_induction Pattern.read? text generalizing pattern with
  | case1 =>
    obtain rfl := Option.some.inj h
    rfl
  | case2 rest ih =>
    obtain ⟨read, hread, rfl⟩ := Option.map_eq_some_iff.1 h
    rw [lexemes?, ih hread]
    rfl
  | case3 c rest hs hc ih =>
    obtain ⟨read, hread, rfl⟩ := Option.map_eq_some_iff.1 h
    rw [lexemes?_escaped hc, ih hread]
    rfl
  | case4 | case5 => exact absurd h (by simp)
  | case6 c rest _ _ hc ih =>
    obtain ⟨read, hread, rfl⟩ := Option.map_eq_some_iff.1 h
    rw [lexemes?_plain hc, ih hread]
    rfl

private theorem lexemes?_source (pattern : Pattern) :
    lexemes? pattern.source = some (pattern.map .atom) :=
  lexemes?_of_read? (Pattern.read?_source pattern)

def groupLexemes (pattern : Pattern) : List Lexeme :=
  .opening :: (pattern.map .atom ++ [.closing])

private theorem lexemes?_group (pattern : Pattern) :
    lexemes? ("(?:".toList ++ pattern.source ++ [')']) = some (groupLexemes pattern) := by
  have hopening : lexemes? "(?:".toList = some [.opening] := rfl
  have hclosing : lexemes? [')'] = some [.closing] := rfl
  rw [List.append_assoc, lexemes?_append hopening, lexemes?_append (lexemes?_source pattern),
    hclosing]
  rfl

def alternationLexemes (patterns : List Pattern) : List Lexeme :=
  [.bar].intercalate (patterns.map groupLexemes)

private theorem alternationLexemes_cons_cons (first second : Pattern) (patterns : List Pattern) :
    alternationLexemes (first :: second :: patterns) =
      groupLexemes first ++ .bar :: alternationLexemes (second :: patterns) := by
  have hcons := @List.intercalate_cons_cons _ [Lexeme.bar] (groupLexemes first)
    (groupLexemes second) (patterns.map groupLexemes)
  rw [List.append_assoc] at hcons
  exact hcons

private theorem lexemes?_alternationSource (patterns : List Pattern) :
    lexemes? (alternationSource patterns) = some (alternationLexemes patterns) := by
  have hbar : lexemes? ['|'] = some [.bar] := rfl
  induction patterns with
  | nil => rfl
  | cons first patterns ih =>
    cases patterns with
    | nil =>
      rw [alternationSource, alternationLexemes, List.map_singleton, List.map_singleton,
        List.intercalate_singleton, List.intercalate_singleton, lexemes?_group]
    | cons second patterns =>
      rw [alternationSource_cons_cons, List.append_assoc, lexemes?_append (lexemes?_group first),
        lexemes?_append hbar, ih, alternationLexemes_cons_cons]
      rfl

end Lexemes

namespace Expression

private theorem ofLexemes?_atoms (outer : List Level) (level : Level) (pattern : Pattern)
    (lexemes : List Lexeme) :
    ofLexemes? outer level (pattern.map .atom ++ lexemes) =
      ofLexemes? outer { level with current := level.current ++ ofPattern pattern } lexemes := by
  induction pattern generalizing level with
  | nil => simp [ofPattern]
  | cons atom pattern ih =>
    rw [List.map_cons, List.cons_append, ofLexemes?, ih]
    simp [Level.push, ofPattern]

private theorem ofLexemes?_group (outer : List Level) (level : Level) (pattern : Pattern)
    (lexemes : List Lexeme) :
    ofLexemes? outer level (groupLexemes pattern ++ lexemes) =
      ofLexemes? outer (level.push (.group [ofPattern pattern])) lexemes := by
  rw [groupLexemes, List.cons_append, List.append_assoc, ofLexemes?, ofLexemes?_atoms]
  rfl

def ofPatterns (patterns : List Pattern) : List (List Expression) :=
  patterns.map fun pattern => [.group [ofPattern pattern]]

private theorem ofLexemes?_groups (ended : List (List Expression)) {patterns : List Pattern}
    (h : patterns ≠ []) :
    ofLexemes? [] { ended } (alternationLexemes patterns) =
      some (ended ++ ofPatterns patterns) := by
  induction patterns generalizing ended with
  | nil => exact absurd rfl h
  | cons first patterns ih =>
    cases patterns with
    | nil =>
      have hgroup := ofLexemes?_group [] { ended } first []
      rw [List.append_nil] at hgroup
      rw [alternationLexemes, List.map_singleton, List.intercalate_singleton, hgroup]
      rfl
    | cons second patterns =>
      have hrest := ih (ended ++ [[.group [ofPattern first]]]) (List.cons_ne_nil _ _)
      rw [List.append_assoc] at hrest
      rw [alternationLexemes_cons_cons, ofLexemes?_group, ofLexemes?]
      exact hrest

private theorem read?_source (pattern : Pattern) : read? pattern.source = some
    [ofPattern pattern] := by
  have hatoms := ofLexemes?_atoms [] {} pattern []
  rw [List.append_nil] at hatoms
  rw [read?, lexemes?_source, Option.bind_some, hatoms]
  rfl

private theorem read?_alternationSource {patterns : List Pattern} (h : patterns ≠ []) :
    read? (alternationSource patterns) = some (ofPatterns patterns) := by
  rw [read?, lexemes?_alternationSource, Option.bind_some, ofLexemes?_groups [] h, List.nil_append]

private theorem ofPattern_injective {p q : Pattern} (h : ofPattern p = ofPattern q) : p = q :=
  List.map_injective_iff.2 (fun _ _ hatom => Expression.atom.inj hatom) h

private theorem ofPatterns_injective {p q : List Pattern} (h : ofPatterns p = ofPatterns q) :
    p = q := by
  refine List.map_injective_iff.2 (fun p q hgroup => ?_) h
  have halternatives := Expression.group.inj (List.cons.inj hgroup).1
  exact ofPattern_injective (List.cons.inj halternatives).1

end Expression

theorem alternationSource_injective {p q : List Pattern} (hp : p ≠ []) (hq : q ≠ [])
    (h : alternationSource p = alternationSource q) : p = q := by
  have hread := Expression.read?_alternationSource hp
  rw [h, Expression.read?_alternationSource hq] at hread
  exact (Expression.ofPatterns_injective (Option.some.inj hread)).symm

/-- The texts have the same characters at the same places, but blanks may be other blanks. -/
def SameButBlanks (text other : Text) : Prop :=
  List.Forall₂ (fun c d => c = d ∨ isBlank c ∧ isBlank d) text other

instance (text other : Text) : Decidable (SameButBlanks text other) :=
  inferInstanceAs (Decidable (List.Forall₂ _ _ _))

private theorem Atom.ofChar_eq_iff {c d : Char} :
    ofChar c = ofChar d ↔ c = d ∨ isBlank c ∧ isBlank d := by
  by_cases hc : isBlank c <;> by_cases hd : isBlank d
  · simp [ofChar, hc, hd]
  · have hne : c ≠ d := by
      rintro rfl
      exact hd hc
    simp [ofChar, hc, hd, hne]
  · have hne : c ≠ d := by
      rintro rfl
      exact hc hd
    simp [ofChar, hc, hd, hne]
  · simp [ofChar, hc, hd]

private theorem map_eq_map_iff_forall₂ {α β : Type} {f : α → β} {l m : List α} :
    l.map f = m.map f ↔ List.Forall₂ (fun a b => f a = f b) l m := by
  rw [← List.forall₂_eq_eq_eq, List.forall₂_map_left_iff, List.forall₂_map_right_iff]

private theorem Pattern.ofTerm_eq_iff {term other : Text} :
    ofTerm term = ofTerm other ↔ SameButBlanks term other := by
  rw [ofTerm, ofTerm, map_eq_map_iff_forall₂, SameButBlanks]
  simp only [Atom.ofChar_eq_iff]

private theorem Pattern.source_ofTerm_eq_iff {term other : Text} :
    (ofTerm term).source = (ofTerm other).source ↔ SameButBlanks term other := by
  rw [← ofTerm_eq_iff]
  exact ⟨source_injective, congrArg source⟩

private theorem alternationSource_ofTerm_eq_iff {terms others : List Text} (hterms : terms ≠ [])
    (hothers : others ≠ []) :
    alternationSource (terms.map Pattern.ofTerm) = alternationSource (others.map Pattern.ofTerm) ↔
      List.Forall₂ SameButBlanks terms others := by
  have hpatterns : terms.map Pattern.ofTerm ≠ [] := mt List.map_eq_nil_iff.1 hterms
  have hpatterns' : others.map Pattern.ofTerm ≠ [] := mt List.map_eq_nil_iff.1 hothers
  have hsource : alternationSource (terms.map Pattern.ofTerm) =
      alternationSource (others.map Pattern.ofTerm) ↔
        terms.map Pattern.ofTerm = others.map Pattern.ofTerm :=
    ⟨alternationSource_injective hpatterns hpatterns', congrArg alternationSource⟩
  rw [hsource, map_eq_map_iff_forall₂]
  simp only [Pattern.ofTerm_eq_iff]

/-- The source text made of a term reads as one atom for each of its characters, and the one made of
several terms as one group for each term with its atoms. So terms have the same source text exactly
if they differ in nothing but their blanks, and so do lists of terms. -/
theorem Expression.read?_source_ofTerm :
    (∀ term : Text, read? (Pattern.ofTerm term).source =
        some [term.map fun c => .atom (if isBlank c then .blanks else .char c)]) ∧
      (∀ terms ≠ [], read? (alternationSource (terms.map Pattern.ofTerm)) =
        some (terms.map fun term =>
          [.group [term.map fun c => .atom (if isBlank c then .blanks else .char c)]])) ∧
      (∀ term other : Text, (Pattern.ofTerm term).source = (Pattern.ofTerm other).source ↔
        SameButBlanks term other) ∧
      ∀ terms ≠ [], ∀ others ≠ [],
        alternationSource (terms.map Pattern.ofTerm) =
            alternationSource (others.map Pattern.ofTerm) ↔
          List.Forall₂ SameButBlanks terms others := by
  have hatoms : ∀ term : Text, ofPattern (Pattern.ofTerm term) =
      term.map fun c => .atom (if isBlank c then .blanks else .char c) := by
    intro term
    exact List.map_map
  refine ⟨fun term => ?_, fun terms hterms => ?_, fun _ _ => Pattern.source_ofTerm_eq_iff,
    fun _ hterms _ hothers => alternationSource_ofTerm_eq_iff hterms hothers⟩
  · rw [read?_source, hatoms]
  · have hpatterns : terms.map Pattern.ofTerm ≠ [] := mt List.map_eq_nil_iff.1 hterms
    rw [read?_alternationSource hpatterns, ofPatterns, List.map_map]
    simp only [Function.comp_def, hatoms]

theorem Expression.read?_source_of_two_terms :
    let terms := ["a)|(?:b\\".toList, "\\s+ c".toList]
    let others := ["a)|(?:b\\".toList, "\\s+\tc".toList]
    terms ≠ [] ∧ others ≠ [] ∧
      read? (alternationSource (terms.map Pattern.ofTerm)) = some
        [[.group ["a)|(?:b\\".toList.map fun c => .atom (.char c)]],
          [.group [("\\s+".toList.map fun c => .atom (.char c)) ++
            [.atom .blanks, .atom (.char 'c')]]]] ∧
      alternationSource (terms.map Pattern.ofTerm) =
        alternationSource (others.map Pattern.ofTerm) := by
  intro terms others
  have hterms : terms ≠ [] := List.cons_ne_nil _ _
  have hothers : others ≠ [] := List.cons_ne_nil _ _
  have hsame : List.Forall₂ SameButBlanks terms others := by decide
  obtain ⟨-, hread, -, hsource⟩ := read?_source_ofTerm
  refine ⟨hterms, hothers, ?_, (hsource terms hterms others hothers).2 hsame⟩
  rw [hread terms hterms]
  rfl

end BooleanSearch
