import BooleanSearch.CommandLine.Lines

set_option autoImplicit false
set_option relaxedAutoImplicit false

namespace BooleanSearch

/-- The bytes are these lines. A line is ended by a line feed, and a carriage return before the line
feed belongs to the end; after the last line feed stand no bytes, or those of one more line. -/
inductive AreLines : List UInt8 → List (List UInt8) → Prop
  | nil : AreLines [] []
  | unended {line : List UInt8} (hne : line ≠ []) (h : 10 ∉ line) : AreLines line [line]
  | feed {line bytes : List UInt8} {lines : List (List UInt8)} (h : 10 ∉ line)
      (hend : line.getLast? ≠ some 13) (hrest : AreLines bytes lines) :
      AreLines (line ++ 10 :: bytes) (line :: lines)
  | returnFeed {line bytes : List UInt8} {lines : List (List UInt8)} (h : 10 ∉ line)
      (hrest : AreLines bytes lines) : AreLines (line ++ 13 :: 10 :: bytes) (line :: lines)

def utf8 (text : Text) : List UInt8 := text.flatMap String.utf8EncodeChar

/-- No byte stands after the last line feed. -/
def EndsLine (bytes : List UInt8) : Prop := bytes = [] ∨ bytes.getLast? = some 10

section Lines

variable {line bytes : List UInt8} {lines : List (List UInt8)}

private theorem betweenLineFeeds_of_not_mem (h : 10 ∉ line) : betweenLineFeeds line =
    (line, []) := by
  induction line with
  | nil => rfl
  | cons byte line ih =>
    obtain ⟨hbyte, hline⟩ := not_or.1 (mt List.mem_cons.2 h)
    have hrest := ih hline
    rw [betweenLineFeeds, List.foldr_cons, ← betweenLineFeeds, hrest]
    exact if_neg (Ne.symm hbyte)

private theorem betweenLineFeeds_append (h : 10 ∉ line) (bytes : List UInt8) :
    betweenLineFeeds (line ++ 10 :: bytes) =
      (line, (betweenLineFeeds bytes).1 :: (betweenLineFeeds bytes).2) := by
  induction line with
  | nil => rfl
  | cons byte line ih =>
    obtain ⟨hbyte, hline⟩ := not_or.1 (mt List.mem_cons.2 h)
    have hrest := ih hline
    rw [List.cons_append, betweenLineFeeds, List.foldr_cons, ← betweenLineFeeds, hrest]
    exact if_neg (Ne.symm hbyte)

private theorem byteLines_of_not_mem (h : 10 ∉ line) :
    byteLines line = if line = [] then [] else [line] := by
  rw [byteLines, betweenLineFeeds_of_not_mem h]
  by_cases hline : line = []
  · rw [hline]
    rfl
  · simp [hline]

private theorem byteLines_append (h : 10 ∉ line) (bytes : List UInt8) :
    byteLines (line ++ 10 :: bytes) = dropCarriageReturn line :: byteLines bytes := by
  rw [byteLines, betweenLineFeeds_append h]
  rfl

private theorem dropCarriageReturn_of_ne (h : line.getLast? ≠ some 13) :
    dropCarriageReturn line = line :=
  if_neg h

private theorem dropCarriageReturn_concat (line : List UInt8) :
    dropCarriageReturn (line ++ [13]) = line := by
  rw [dropCarriageReturn, List.getLast?_concat, if_pos rfl, List.dropLast_concat]

theorem AreLines.byteLines_eq (h : AreLines bytes lines) : byteLines bytes = lines := by
  induction h with
  | nil => rfl
  | unended hne h => rw [byteLines_of_not_mem h, if_neg hne]
  | feed h hend _ ih => rw [byteLines_append h, dropCarriageReturn_of_ne hend, ih]
  | @returnFeed line bytes lines h _ ih =>
    have hreturn : 10 ∉ line ++ [13] := by simp [h]
    have hbytes : line ++ 13 :: 10 :: bytes = (line ++ [13]) ++ 10 :: bytes := by simp
    rw [hbytes, byteLines_append hreturn, dropCarriageReturn_concat, ih]

theorem exists_areLines (bytes : List UInt8) : ∃ lines, AreLines bytes lines := by
  induction hlength : bytes.length using Nat.strongRecOn generalizing bytes with
  | ind length ih =>
    by_cases hfeed : 10 ∈ bytes
    · obtain ⟨line, rest, rfl, hline⟩ := List.eq_append_cons_of_mem hfeed
      have hless : rest.length < length := by
        rw [← hlength, List.length_append, List.length_cons]
        omega
      obtain ⟨lines, hlines⟩ := ih _ hless rest rfl
      by_cases hend : line.getLast? = some 13
      · obtain ⟨before, rfl⟩ := List.getLast?_eq_some_iff.1 hend
        have hbefore : 10 ∉ before := fun hmem => hline (List.mem_append_left _ hmem)
        refine ⟨before :: lines, ?_⟩
        rw [List.append_assoc]
        exact .returnFeed hbefore hlines
      · exact ⟨line :: lines, .feed hline hend hlines⟩
    · by_cases hne : bytes = []
      · rw [hne]
        exact ⟨[], .nil⟩
      · exact ⟨[bytes], .unended hne hfeed⟩

/-- Every input has these lines and no others. -/
theorem areLines_iff : AreLines bytes lines ↔ byteLines bytes = lines := by
  constructor
  · exact AreLines.byteLines_eq
  · rintro rfl
    obtain ⟨lines, hlines⟩ := exists_areLines bytes
    rwa [hlines.byteLines_eq]

private theorem EndsLine.of_append {before rest : List UInt8}
    (h : EndsLine (before ++ 10 :: rest)) :
    EndsLine rest := by
  rcases h with hnil | hlast
  · simp at hnil
  · rw [List.getLast?_append, List.getLast?_cons] at hlast
    cases hrest : rest.getLast? with
    | none => exact .inl (List.getLast?_eq_none_iff.1 hrest)
    | some byte =>
      rw [hrest] at hlast
      exact .inr (hrest.trans hlast)

theorem AreLines.append (h : AreLines bytes lines) (hend : EndsLine bytes) {later : List UInt8}
    {others : List (List UInt8)} (hlater : AreLines later others) :
    AreLines (bytes ++ later) (lines ++ others) := by
  induction h with
  | nil => exact hlater
  | unended hne h =>
    rcases hend with hnil | hlast
    · exact absurd hnil hne
    · exact absurd (List.mem_of_getLast? hlast) h
  | feed h hreturn _ ih =>
    rw [List.append_assoc]
    exact .feed h hreturn (ih hend.of_append)
  | @returnFeed line bytes lines h _ ih =>
    have hrest : EndsLine bytes := by
      have hbytes : line ++ 13 :: 10 :: bytes = (line ++ [13]) ++ 10 :: bytes := by simp
      rw [hbytes] at hend
      exact hend.of_append
    rw [List.append_assoc]
    exact .returnFeed h (ih hrest)

end Lines

section Encoding

variable {line : List UInt8} {text : Text}

private theorem fromUTF8?_eq_some_iff {bytes : ByteArray} {string : String} :
    String.fromUTF8? bytes = some string ↔ string.toByteArray = bytes := by
  by_cases h : bytes.IsValidUTF8
  · have hread : String.fromUTF8? bytes = some (String.fromUTF8 bytes h) := dif_pos h
    rw [hread, Option.some_inj, ← String.toByteArray_inj, eq_comm]
    rfl
  · have hread : String.fromUTF8? bytes = none := dif_neg h
    rw [hread]
    refine iff_of_false nofun ?_
    rintro rfl
    exact h string.isValidUTF8

private theorem decodeLine?_eq_some_iff : decodeLine? line = some text ↔ utf8 text = line := by
  have hbytes : (⟨line.toArray⟩ : ByteArray) = line.toByteArray :=
    ByteArray.ext List.data_toByteArray.symm
  have htext : (String.ofList text).toByteArray = (utf8 text).toByteArray := rfl
  rw [decodeLine?, hbytes, Option.map_eq_some_iff, ← List.toByteArray_inj, ← htext]
  constructor
  · rintro ⟨string, hstring, rfl⟩
    rw [String.ofList_toList]
    exact fromUTF8?_eq_some_iff.1 hstring
  · intro h
    exact ⟨_, fromUTF8?_eq_some_iff.2 h, String.toList_ofList⟩

theorem decodeLine?_utf8 (text : Text) : decodeLine? (utf8 text) = some text :=
  decodeLine?_eq_some_iff.2 rfl

theorem decodeLine?_eq_none_iff : decodeLine? line = none ↔ ∀ text, utf8 text ≠ line := by
  simp only [Option.eq_none_iff_forall_ne_some, ne_eq, decodeLine?_eq_some_iff]

end Encoding

end BooleanSearch
