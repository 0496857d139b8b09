import BooleanSearch.Text.Quoted
import Mathlib.Data.List.Basic

/-!
# Reading printed values

Printed values stand next to each other, so it must show where one ends and what it was. Two values
are read alike if, with such text after them as may stand there, equal texts come from equal values
and equal rests. Quoted texts are read alike whatever follows, for each of their characters is; and
so are lists between a separator and a closing character that no entry starts with.
-/

set_option autoImplicit false
set_option relaxedAutoImplicit false

namespace BooleanSearch

section ReadAlike

variable {α β : Type} {Follows : Text → Prop} {print : α → Text} {key : α → β}

/-- Where both values are printed before texts that may follow them, equal texts come from values
with equal keys and from equal rests. -/
def ReadAlike (Follows : Text → Prop) (print : α → Text) (key : α → β) (a b : α) : Prop :=
  ∀ ⦃rest rest' : Text⦄, Follows rest → Follows rest' → print a ++ rest = print b ++ rest' →
    key a = key b ∧ rest = rest'

theorem ReadAlike.key_eq {a b : α} (h : ReadAlike Follows print key a b) (hnil : Follows [])
    (hprint : print a = print b) : key a = key b :=
  (h hnil hnil (congrArg (· ++ []) hprint)).1

end ReadAlike

def hexValue (digits : Text) : Nat :=
  digits.foldl (fun value c => 16 * value + if c.isDigit then c.toNat - 48 else c.toNat - 87) 0

private theorem hexValue_toDigits (n : Nat) : hexValue (Nat.toDigits 16 n) = n := by
  have hdigit : ∀ digit < 16, hexValue [Nat.digitChar digit] = digit := by decide
  have hconcat : ∀ digits : Text, ∀ c, hexValue (digits ++ [c]) =
      16 * hexValue digits + hexValue [c] := by
    intro digits c
    simp [hexValue]
  induction n using Nat.strongRecOn with
  | ind n ih =>
    rw [Nat.toDigits_eq_if (by decide)]
    split
    · rename_i hn
      exact hdigit n hn
    · rename_i hn
      rw [hconcat, ih (n / 16) (by omega), hdigit (n % 16) (by omega)]
      omega

def shortEscape? : Char → Option Char
  | '0' => some '\x00'
  | 't' => some '\t'
  | 'r' => some '\r'
  | 'n' => some '\n'
  | '\\' => some '\\'
  | '"' => some '"'
  | _ => none

/-- The character that is written between quotes at the start of the text, and what follows. -/
def readQuotedChar? : Text → Option (Char × Text)
  | '\\' :: 'u' :: '\x7b' :: rest =>
    some (Char.ofNat (hexValue (rest.takeWhile (· != '\x7d'))),
      (rest.dropWhile (· != '\x7d')).tail)
  | '\\' :: c :: rest => (shortEscape? c).map (·, rest)
  | c :: rest => some (c, rest)
  | [] => none

private theorem readQuotedChar?_codePointEscape (c : Char) (rest : Text) :
    readQuotedChar? (codePointEscape c ++ rest) = some (c, rest) := by
  have hdigits : ∀ d ∈ Nat.toDigits 16 c.toNat, (d != '\x7d') = true := by
    intro d hd
    obtain ⟨digit, rfl⟩ := exists_eq_digitChar_of_mem_toDigits hd
    exact bne_iff_ne.2 (Nat.digitChar_ne _ (by decide))
  have htext : codePointEscape c ++ rest =
      '\\' :: 'u' :: '\x7b' :: (Nat.toDigits 16 c.toNat ++ '\x7d' :: rest) := by
    simp [codePointEscape]
  rw [htext, readQuotedChar?, List.takeWhile_append_of_pos hdigits,
    List.dropWhile_append_of_pos hdigits]
  simp [hexValue_toDigits]

private theorem readQuotedChar?_quotedChar (c : Char) (rest : Text) :
    readQuotedChar? (quotedChar c ++ rest) = some (c, rest) := by
  unfold quotedChar
  split
  · subst_vars; rfl
  split
  · subst_vars; rfl
  split
  · subst_vars; rfl
  split
  · subst_vars; rfl
  split
  · subst_vars; rfl
  split
  · subst_vars; rfl
  split
  · exact readQuotedChar?_codePointEscape c rest
  · rename_i hbackslash _ _
    rw [List.singleton_append, readQuotedChar?]
    · exact fun _ h => absurd h hbackslash
    · exact fun _ _ h => absurd h hbackslash

private theorem head?_quotedChar_ne (c : Char) (rest : Text) :
    (quotedChar c ++ rest).head? ≠ some '"' := by
  intro h
  have hread := readQuotedChar?_quotedChar c rest
  obtain ⟨text, htext⟩ : ∃ text, quotedChar c ++ rest = '"' :: text := List.head?_eq_some_iff.1 h
  rw [htext] at hread
  obtain ⟨rfl, rfl⟩ := Prod.mk.inj (Option.some.inj hread)
  exact absurd htext (by simp [quotedChar])

private theorem quotedChars_append_inj {text other rest rest' : Text}
    (h : text.flatMap quotedChar ++ '"' :: rest = other.flatMap quotedChar ++ '"' :: rest') :
    text = other ∧ rest = rest' := by
  induction text generalizing other with
  | nil =>
    cases other with
    | nil => exact ⟨rfl, (List.cons.inj h).2⟩
    | cons d other =>
      rw [List.flatMap_cons, List.append_assoc] at h
      exact absurd (congrArg List.head? h).symm (head?_quotedChar_ne d _)
  | cons c text ih =>
    rw [List.flatMap_cons, List.append_assoc] at h
    cases other with
    | nil => exact absurd (congrArg List.head? h) (head?_quotedChar_ne c _)
    | cons d other =>
      rw [List.flatMap_cons, List.append_assoc] at h
      have hread := congrArg readQuotedChar? h
      rw [readQuotedChar?_quotedChar, readQuotedChar?_quotedChar] at hread
      obtain ⟨rfl, hrest⟩ := Prod.mk.inj (Option.some.inj hread)
      obtain ⟨rfl, rfl⟩ := ih hrest
      exact ⟨rfl, rfl⟩

theorem readAlike_quoted (Follows : Text → Prop) (text other : Text) :
    ReadAlike Follows quoted id text other := by
  have hquoted : ∀ text rest : Text,
      quoted text ++ rest = '"' :: (text.flatMap quotedChar ++ '"' :: rest) := by
    intro text rest
    simp [quoted]
  intro rest rest' _ _ h
  rw [hquoted, hquoted] at h
  exact quotedChars_append_inj (List.cons.inj h).2

section Entries

variable {α β : Type} {print : α → Text} {key : α → β} {separator : Text} {close : Char}

def FollowsEntry (separator : Text) (close : Char) (rest : Text) : Prop :=
  separator <+: rest ∨ rest.head? = some close

def printEntries (print : α → Text) (separator : Text) (close : Char) (entries : List α) : Text :=
  separator.intercalate (entries.map print) ++ [close]

/-- What stands in a printed list after an entry: the later ones, each behind a separator. -/
def laterEntries (print : α → Text) (separator : Text) (close : Char) (entries : List α) : Text :=
  entries.flatMap (fun entry => separator ++ print entry) ++ [close]

private theorem printEntries_cons (first : α) (entries : List α) :
    printEntries print separator close (first :: entries) =
      print first ++ laterEntries print separator close entries := by
  rw [printEntries, laterEntries, ← List.append_assoc, List.map_cons]
  refine congrArg (· ++ [close]) ?_
  induction entries generalizing first with
  | nil => simp [List.intercalate_singleton]
  | cons second entries ih =>
    rw [List.map_cons, List.intercalate_cons_cons, ih, List.flatMap_cons]
    simp only [List.append_assoc]

private theorem followsEntry_laterEntries (entries : List α) (rest : Text) :
    FollowsEntry separator close (laterEntries print separator close entries ++ rest) := by
  cases entries with
  | nil => exact .inr rfl
  | cons first entries =>
    refine .inl ?_
    rw [laterEntries, List.flatMap_cons]
    simp only [List.append_assoc]
    exact List.prefix_append _ _

variable {as bs : List α}

private theorem laterEntries_append_inj (hseparator : ∃ c ∈ separator.head?, c ≠ close)
    (hentry : ∀ a ∈ as, ∀ b ∈ bs, ReadAlike (FollowsEntry separator close) print key a b)
    {rest rest' : Text} (h : laterEntries print separator close as ++ rest =
      laterEntries print separator close bs ++ rest') :
    as.map key = bs.map key ∧ rest = rest' := by
  obtain ⟨c, hc, hne⟩ := hseparator
  have hhead : ∀ (b : α) (bs : List α) (rest : Text),
      (laterEntries print separator close (b :: bs) ++ rest).head? = some c := by
    intro b bs rest
    rw [laterEntries, List.flatMap_cons]
    simp only [List.append_assoc]
    exact List.mem_head?_append_of_mem_head? hc
  have hcons : ∀ (b : α) (bs : List α) (rest : Text),
      laterEntries print separator close (b :: bs) ++ rest =
        separator ++ (print b ++ (laterEntries print separator close bs ++ rest)) := by
    intro b bs rest
    rw [laterEntries, laterEntries, List.flatMap_cons]
    simp only [List.append_assoc]
  induction as generalizing bs with
  | nil =>
    cases bs with
    | nil => exact ⟨rfl, (List.cons.inj h).2⟩
    | cons b bs =>
      have hclose := congrArg List.head? h
      rw [hhead] at hclose
      exact absurd (Option.some.inj hclose).symm hne
  | cons a as ih =>
    cases bs with
    | nil =>
      have hclose := congrArg List.head? h
      rw [hhead] at hclose
      exact absurd (Option.some.inj hclose) hne
    | cons b bs =>
      rw [hcons, hcons] at h
      obtain ⟨hkey, hlater⟩ := hentry a List.mem_cons_self b List.mem_cons_self
        (followsEntry_laterEntries as rest) (followsEntry_laterEntries bs rest')
        (List.append_cancel_left h)
      obtain ⟨hkeys, hrest⟩ := ih (fun a ha b hb => hentry a (List.mem_cons_of_mem _ ha) b
        (List.mem_cons_of_mem _ hb)) hlater
      exact ⟨List.cons_eq_cons.2 ⟨hkey, hkeys⟩, hrest⟩

/-- Lists are read alike if their entries are before a separator and before the end, and if no entry
looks like the end. -/
theorem readAlike_printEntries (hseparator : ∃ c ∈ separator.head?, c ≠ close)
    (hstart : ∀ a, ∃ c ∈ (print a).head?, c ≠ close)
    (hentry : ∀ a ∈ as, ∀ b ∈ bs, ReadAlike (FollowsEntry separator close) print key a b)
    (Follows : Text → Prop) :
    ReadAlike Follows (printEntries print separator close) (List.map key) as bs := by
  have hclose : ∀ a text, (print a ++ text).head? ≠ some close := by
    intro a text heq
    obtain ⟨c, hc, hne⟩ := hstart a
    have hhead : (print a ++ text).head? = some c := List.mem_head?_append_of_mem_head? hc
    rw [hhead] at heq
    exact hne (Option.some.inj heq)
  intro rest rest' _ _ h
  cases as with
  | nil =>
    cases bs with
    | nil => exact ⟨rfl, (List.cons.inj h).2⟩
    | cons b bs =>
      rw [printEntries_cons, List.append_assoc] at h
      exact absurd (congrArg List.head? h).symm (hclose b _)
  | cons a as =>
    rw [printEntries_cons, List.append_assoc] at h
    cases bs with
    | nil => exact absurd (congrArg List.head? h) (hclose a _)
    | cons b bs =>
      rw [printEntries_cons, List.append_assoc] at h
      obtain ⟨hkey, hlater⟩ := hentry a List.mem_cons_self b List.mem_cons_self
        (followsEntry_laterEntries as rest) (followsEntry_laterEntries bs rest') h
      obtain ⟨hkeys, hrest⟩ := laterEntries_append_inj hseparator (fun a ha b hb =>
        hentry a (List.mem_cons_of_mem _ ha) b (List.mem_cons_of_mem _ hb)) hlater
      exact ⟨List.cons_eq_cons.2 ⟨hkey, hkeys⟩, hrest⟩

end Entries

end BooleanSearch
