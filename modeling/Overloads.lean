import Overloads.Codec.Config
import Overloads.Command.FileTree
import Overloads.Main
import Overloads.Source.Builder
import Overloads.Proofs.LosslessRuns
import Overloads.Proofs.ReportedProblems
import Overloads.Proofs.Resolution
import Overloads.Proofs.EmittedConstants
import Overloads.Proofs.OutputReading
import Overloads.Proofs.Schedules
import Overloads.Proofs.TolerantReading
import Overloads.Proofs.NumeralValues
import Overloads.Proofs.QuotedText
import Overloads.Proofs.Balance
import Overloads.Proofs.NativeDefaults
import Overloads.Proofs.Dependence
import Overloads.Proofs.PrintedSignatures
import Overloads.Proofs.RefusedDefaults
import Overloads.Proofs.ForwardedValues
import Overloads.Proofs.Renumbering
import Overloads.Proofs.MethodTexts
import Overloads.Proofs.MethodOrder
import Overloads.Proofs.AddedMethods
import Overloads.Proofs.MethodReports
import Overloads.Proofs.PrintedCalls
import Overloads.Proofs.UnseenChanges
import Overloads.Proofs.DefaultValues
import Overloads.Proofs.SlotTexts
import Overloads.Proofs.LiteralTexts
import Overloads.Proofs.PairwiseCollisions
import Overloads.Proofs.Nesting
import Overloads.Proofs.Placeholders
import Overloads.Proofs.LineEnds
