import PerfGate.Main
import PerfGate.Proofs.Command.Announced
import PerfGate.Proofs.Command.NameList
import PerfGate.Proofs.Command.OwnOutput
import PerfGate.Proofs.Command.Reduction
import PerfGate.Proofs.Decimal.Fixed
import PerfGate.Proofs.Decimal.Stability
import PerfGate.Proofs.FileSystem
import PerfGate.Proofs.Gate.Arrangement
import PerfGate.Proofs.Gate.FurtherRun
import PerfGate.Proofs.Gate.Margin
import PerfGate.Proofs.Gate.Partition
import PerfGate.Proofs.Gate.PolicySteps
import PerfGate.Proofs.Gate.RelaxedTier
import PerfGate.Proofs.Gate.Reversal
import PerfGate.Proofs.Load.Accounting
import PerfGate.Proofs.Load.Connections
import PerfGate.Proofs.Load.Reconnect
import PerfGate.Proofs.Load.Sweep
import PerfGate.Proofs.Measurement.Batches
import PerfGate.Proofs.Measurement.Least
import PerfGate.Proofs.Measurement.Runs
import PerfGate.Proofs.Report.Figures
import PerfGate.Proofs.ResultFile.Diagnosed
import PerfGate.Proofs.ResultFile.Reachable
import PerfGate.Proofs.ResultFile.Streamed
import PerfGate.Proofs.ResultFile.Title
import PerfGate.Proofs.Text.Bytes
import PerfGate.Proofs.Xml.Comment
import PerfGate.Proofs.Xml.Run
import PerfGate.Proofs.Xml.Steps
import PerfGate.Proofs.XmlRpc.Answered
import PerfGate.Proofs.XmlRpc.Discarded
import PerfGate.Proofs.XmlRpc.Presentation.Independence
import PerfGate.Proofs.XmlRpc.Reencoding
import PerfGate.Proofs.XmlRpc.Resources
import PerfGate.Proofs.XmlRpc.Responses
import PerfGate.Proofs.XmlRpc.RootElement
import PerfGate.Proofs.XmlRpc.RoundTrip
import PerfGate.Proofs.XmlRpc.SelfClosing
import PerfGate.Proofs.XmlRpc.Truncation
