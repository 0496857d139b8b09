import BooleanSearch.CommandLine.Outcome
import BooleanSearch.Main
import BooleanSearch.Pattern.Reader
import BooleanSearch.Query.Flattening
import BooleanSearch.Query.Rendering
import BooleanSearch.Searcher.Call
import BooleanSearch.Text.FoldedBlank
import BooleanSearch.Proofs.Query.Leftmost
import BooleanSearch.Proofs.Query.ChainOfRuns
import BooleanSearch.Proofs.Query.RegularGrouping
import BooleanSearch.Proofs.Condition.Compiled
import BooleanSearch.Proofs.Condition.LeftToRight
import BooleanSearch.Proofs.Condition.CompiledSequence
import BooleanSearch.Proofs.Condition.Refinement
import BooleanSearch.Proofs.Searcher.Coherence
import BooleanSearch.Proofs.Searcher.DirectAnswer
import BooleanSearch.Proofs.Searcher.WiderCandidate
import BooleanSearch.Proofs.Searcher.Unanimity
import BooleanSearch.Proofs.Query.Exchange
import BooleanSearch.Proofs.Condition.DeMorgan
import BooleanSearch.Proofs.Condition.Alternation
import BooleanSearch.Pattern.Expression
import BooleanSearch.Proofs.Pattern.Reading
import BooleanSearch.Proofs.Pattern.Blocks
import BooleanSearch.Proofs.Condition.Conservation
import BooleanSearch.Proofs.Searcher.Explained
import BooleanSearch.Proofs.Searcher.FilterAll
import BooleanSearch.Proofs.Searcher.Ledger
import BooleanSearch.Proofs.Condition.Limited
import BooleanSearch.Proofs.Searcher.Oversized
import BooleanSearch.Proofs.Condition.Monotone
import BooleanSearch.Proofs.Condition.Folded
import BooleanSearch.Proofs.Searcher.FoldedSearch
import BooleanSearch.Proofs.Searcher.WiderBlanks
import BooleanSearch.Proofs.Query.Scan
import BooleanSearch.Proofs.Searcher.TokensInEffect
import BooleanSearch.Proofs.Query.EndTerms
import BooleanSearch.Proofs.Searcher.PaddedQuery
import BooleanSearch.Proofs.CommandLine.Grammar
import BooleanSearch.Proofs.CommandLine.Accepted
import BooleanSearch.Proofs.CommandLine.TokenOptions
import BooleanSearch.Proofs.Query.Stretches
import BooleanSearch.Proofs.CommandLine.FilteredInput
import BooleanSearch.Proofs.Report.Color
import BooleanSearch.Proofs.Query.Printed
import BooleanSearch.Proofs.Condition.Printed
