import Formula.CommandLine.Options
import Formula.CommandLine.Report
import Formula.Error
import Formula.Evaluation
import Formula.Literal
import Formula.Main
import Formula.Number
import Formula.Proofs.BindableNames
import Formula.Proofs.BindableVariables
import Formula.Proofs.BindingAgreement
import Formula.Proofs.BindingOrder
import Formula.Proofs.BlankInvariance
import Formula.Proofs.Characters
import Formula.Proofs.Composition
import Formula.Proofs.DiagramLines
import Formula.Proofs.FirstFailure
import Formula.Proofs.FirstOccurrences
import Formula.Proofs.FlatForm
import Formula.Proofs.FloatCodes
import Formula.Proofs.Grammar
import Formula.Proofs.LabelText
import Formula.Proofs.LexemeChoice
import Formula.Proofs.LiteralLanguage
import Formula.Proofs.LiteralPattern
import Formula.Proofs.LiteralTokens
import Formula.Proofs.Lookups
import Formula.Proofs.NumberText
import Formula.Proofs.ReaderFronts
import Formula.Proofs.ReaderGrammar
import Formula.Proofs.ReaderSteps
import Formula.Proofs.ReadingOrder
import Formula.Proofs.RoundTrip
import Formula.Proofs.ScanFaults
import Formula.Proofs.ScanSteps
import Formula.Proofs.Segmentation
import Formula.Proofs.Substitution
import Formula.Proofs.TableHistories
import Formula.Proofs.UniqueReading
import Formula.Proofs.ViablePrefixes
import Formula.Reader
import Formula.Scan
import Formula.Text
import Formula.Token
import Formula.Tree
