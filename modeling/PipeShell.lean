import PipeShell.Main
import PipeShell.Proofs.LineByLine
import PipeShell.Proofs.NoLeaks
import PipeShell.Proofs.OutputRedirection
import PipeShell.Proofs.FullRuns
import PipeShell.Proofs.LineBoundaries
import PipeShell.Proofs.WrittenPipelines
import PipeShell.Proofs.EarlyFailures
import PipeShell.Proofs.PipeEnds
import PipeShell.Proofs.StageTurns
import PipeShell.Proofs.LateFailures
import PipeShell.Proofs.Handouts
import PipeShell.Proofs.Chains
import PipeShell.Proofs.RefusedCalls
import PipeShell.Proofs.PastReadings
import PipeShell.Proofs.LineReadings
import PipeShell.Proofs.LostReports
import PipeShell.Proofs.LimitedDiagnostics
import PipeShell.Proofs.StreamAnswers
import PipeShell.Proofs.TornLines
import PipeShell.Proofs.RejectedLines
import PipeShell.Proofs.HopelessTokens
import PipeShell.Proofs.Separators
import PipeShell.Proofs.ArrivingLines
import PipeShell.Proofs.LineEndings
import PipeShell.Proofs.OwnLines
import PipeShell.Proofs.DecodedLines
import PipeShell.Proofs.ArrayHistories
import PipeShell.Proofs.ExitCodes
import PipeShell.Proofs.StandardSlots
import PipeShell.Proofs.KeptRoom
