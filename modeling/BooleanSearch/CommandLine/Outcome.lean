import BooleanSearch.CommandLine.Help
import BooleanSearch.CommandLine.Lines
import BooleanSearch.Condition.Estimate
import BooleanSearch.Report.Stages

/-!
# What the command line does

A request is answered by an exit code and by what is written to the two output streams. A search
prints the lines of the input that satisfy the query, up to the first line that is not UTF-8; its
exit code is 0 if there is no such line and something was printed.
-/

set_option autoImplicit false
set_option relaxedAutoImplicit false

namespace BooleanSearch

/-- How a run of the program ends and what it writes. -/
structure Outcome where
  code : Nat
  output : Text
  /-- What stands on standard error apart from the log. The log lines, which a query that does not
  compile adds to as well, are left out, and so is what the verbosity changes in them. -/
  errors : Text
  deriving DecidableEq

variable [Engine]

/-- The candidates that satisfy the query when the searcher is asked about one after the other. -/
def Searcher.filterEach (searcher : Searcher) (candidates : List Text) (query : Text) :
    List Text × Searcher :=
  let (kept, searcher) := candidates.foldl (fun (kept, searcher) candidate =>
    let (satisfied, searcher) := searcher.filter candidate query
    (if satisfied then candidate :: kept else kept, searcher)) ([], searcher)
  (kept.reverse, searcher)

def filterLines (searcher : Searcher) (query : Text) (input : List UInt8) : Outcome :=
  let lines := (byteLines input).map decodeLine?
  let readable := (lines.takeWhile Option.isSome).filterMap id
  let kept := (searcher.filterEach readable query).1
  if lines.all Option.isSome then ⟨if kept = [] then 1 else 0, unlines kept, []⟩
  else ⟨1, unlines kept, "error: stream did not contain valid UTF-8\n".toList⟩

def explainQuery (searcher : Searcher) (query : Text) (color : Bool) : Outcome :=
  match searcher.explain query with
  | .ok explanation => ⟨0, renderLines color explanation.reportLines, []⟩
  | .error error => ⟨1, [], unlines ["error: ".toList ++ error.message]⟩

namespace Request

def readsInput : Request → Bool
  | .search settings _ => !settings.explain
  | _ => false

def outcome (input : List UInt8) : Request → Outcome
  | .help => ⟨0, unlines [helpText], []⟩
  | .version => ⟨0, unlines [versionText], []⟩
  | .refuse error => ⟨2, [], unlines [error.message]⟩
  | .search settings query =>
    if settings.explain then explainQuery settings.searcher query settings.color
    else filterLines settings.searcher query input

end Request

end BooleanSearch
