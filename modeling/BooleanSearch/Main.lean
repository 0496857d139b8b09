import BooleanSearch.CommandLine.Outcome

set_option autoImplicit false
set_option relaxedAutoImplicit false

namespace BooleanSearch

/-- All bytes that are left in a stream, after those already read. -/
partial def readBytes (stream : IO.FS.Stream) (before : ByteArray) : IO ByteArray := do
  let bytes ← stream.read 65536
  if bytes.isEmpty then return before else readBytes stream (before ++ bytes)

end BooleanSearch

open BooleanSearch

def main (args : List String) : IO UInt32 := do
  let output ← IO.getStdout
  let request := Request.ofArguments { color := ← output.isTty } (args.map String.toList)
  let input ← if request.readsInput then readBytes (← IO.getStdin) .empty else pure .empty
  let outcome := request.outcome input.toList
  output.putStr (String.ofList outcome.output)
  output.flush
  (← IO.getStderr).putStr (String.ofList outcome.errors)
  return UInt32.ofNat outcome.code
