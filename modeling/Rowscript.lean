import Rowscript.Main
import Rowscript.Web.Server
import Rowscript.Proofs.Reading
import Rowscript.Proofs.Submissions
import Rowscript.Proofs.Lookups
import Rowscript.Proofs.Balance
import Rowscript.Proofs.Formulas
import Rowscript.Proofs.MarkedFormulas
import Rowscript.Proofs.Failures
import Rowscript.Proofs.Tokenization
import Rowscript.Proofs.Addresses
import Rowscript.Proofs.History
import Rowscript.Proofs.CellReferences
import Rowscript.Proofs.WrittenFormulas
import Rowscript.Proofs.RowIndependence
import Rowscript.Proofs.TokenSequences
import Rowscript.Proofs.WrittenFilters
import Rowscript.Proofs.Ranges
import Rowscript.Proofs.Requests
import Rowscript.Proofs.ScratchCell
import Rowscript.Proofs.JobRequests
import Rowscript.Proofs.Reruns
import Rowscript.Proofs.CellLocks
import Rowscript.Proofs.ServerRequests
import Rowscript.Proofs.StringBoundaries
import Rowscript.Proofs.CallTraces
import Rowscript.Proofs.FilterOrder
import Rowscript.Proofs.Notes
import Rowscript.Proofs.ConditionCuts
import Rowscript.Proofs.SelfReferences
import Rowscript.Proofs.NumeralGrammar
import Rowscript.Proofs.FormulaLiterals
import Rowscript.Proofs.LeadingNumbers
import Rowscript.Proofs.NumberFilters
import Rowscript.Proofs.Templates
import Rowscript.Proofs.TokenRewriting
import Rowscript.Proofs.WordBoundaries
import Rowscript.Proofs.Alternatives
import Rowscript.Proofs.ColumnNames
import Rowscript.Proofs.Loading
import Rowscript.Proofs.Rejoining
import Rowscript.Proofs.ColumnLetters
import Rowscript.Proofs.SourceReferences
import Rowscript.Proofs.ReportedFailures
import Rowscript.Proofs.LongestNumerals
import Rowscript.Proofs.BracketGrammar
