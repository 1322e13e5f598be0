import MotionController.Main
import MotionController.Program.AxisArguments
import MotionController.Program.Commands
import MotionController.Proofs.Channel.Sessions
import MotionController.Proofs.Channel.Plans
import MotionController.Proofs.Parameter.Reading
import MotionController.Proofs.Parameter.Comparing
import MotionController.Proofs.Parameter.Atomicity
import MotionController.Proofs.Settings.StoppedRefresh
import MotionController.Proofs.Program.Comments
import MotionController.Proofs.Program.Tightening
import MotionController.Proofs.Program.Packing
import MotionController.Proofs.Program.Semicolons
import MotionController.Proofs.Program.ShortForm
import MotionController.Proofs.Program.CommandView
import MotionController.Proofs.Program.FixedPoint
import MotionController.Proofs.Numeric.Decimal
import MotionController.Proofs.Settings.Patterns
import MotionController.Proofs.Settings.Precedence
import MotionController.Proofs.Settings.Respacing
import MotionController.Proofs.Settings.RoundTrip
import MotionController.Proofs.Program.DiagnosticKinds
import MotionController.Proofs.Program.LabelResolution
import MotionController.Proofs.Settings.Refreshing
import MotionController.Proofs.Parameter.Replies
import MotionController.Proofs.Settings.Revaluing
import MotionController.Proofs.Settings.Reloading
import MotionController.Proofs.Program.LineStarts
import MotionController.Proofs.Program.LineBreaks
import MotionController.Proofs.Program.Warnings
import MotionController.Proofs.Program.NormalForm
import MotionController.Proofs.Program.LongLines
import MotionController.Proofs.StringCell.Fidelity
import MotionController.Proofs.Program.Literals
import MotionController.Proofs.CommandLine.StampedPrograms
import MotionController.Proofs.Settings.CommandValues
import MotionController.Proofs.Program.Arities
import MotionController.Proofs.Program.PackedCommands
import MotionController.Proofs.Program.CallScan
import MotionController.Proofs.Program.FullPacking
import MotionController.Proofs.Program.EmptyStatements
import MotionController.Proofs.Program.ClearedTexts
import MotionController.Proofs.Program.JumpNames
import MotionController.Proofs.Parameter.ProbedReads
import MotionController.Proofs.Program.ArgumentLists
import MotionController.Proofs.Program.CleanLines
import MotionController.Proofs.Channel.Histories
import MotionController.Proofs.Parameter.NetworkWords
import MotionController.Proofs.Program.CompleteScan
import MotionController.Proofs.Program.JoinableLines
