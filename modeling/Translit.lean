import Translit.Main
import Translit.Command.World
import Translit.Proofs.Conversion.Diagnostics
import Translit.Proofs.Conversion.Marker
import Translit.Proofs.Run.CatchAll
import Translit.Proofs.Run.Concatenation
import Translit.Proofs.Run.Reordering
import Translit.Proofs.Command.Arguments
import Translit.Proofs.Command.Files
import Translit.Proofs.Report.Colours
import Translit.Proofs.Report.Lines
import Translit.Proofs.Report.Print
import Translit.Proofs.Report.Records
import Translit.Proofs.Report.RuleTable
import Translit.Proofs.Report.Sink
import Translit.Proofs.Run.EventLog
import Translit.Proofs.Run.LineEndings
import Translit.Proofs.Condition.OnePass
import Translit.Proofs.Interpolation.WellFormed
import Translit.Proofs.Command.Course
import Translit.Proofs.Command.Effects
import Translit.Proofs.Command.ExitCodes
import Translit.Proofs.Verdict.Indentation
import Translit.Proofs.Rule.Clauses
import Translit.Proofs.Rule.Assignments
import Translit.Proofs.Rule.Fronts
