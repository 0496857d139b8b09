import BooleanSearch.Text.Basic

set_option autoImplicit false
set_option relaxedAutoImplicit false

namespace BooleanSearch

/-- The bytes between line feeds: those before the first, then the others in order. -/
def betweenLineFeeds (bytes : List UInt8) : List UInt8 × List (List UInt8) :=
  bytes.foldr (fun byte (line, lines) =>
    if byte = 10 then ([], line :: lines) else (byte :: line, lines)) ([], [])

def dropCarriageReturn (line : List UInt8) : List UInt8 :=
  if line.getLast? = some 13 then line.dropLast else line

def byteLines (bytes : List UInt8) : List (List UInt8) :=
  let (line, lines) := betweenLineFeeds bytes
  let parts := line :: lines
  parts.dropLast.map dropCarriageReturn ++ parts.getLast?.toList.filter (· ≠ [])

def decodeLine? (line : List UInt8) : Option Text :=
  (String.fromUTF8? ⟨line.toArray⟩).map String.toList

end BooleanSearch
