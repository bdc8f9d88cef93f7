import RegistryLoad.Main
import RegistryLoad.Queue.Shared
import RegistryLoad.Registry.Audience
import RegistryLoad.Registry.Recorder
import RegistryLoad.Proofs.Registry.History
import RegistryLoad.Proofs.Load.Balance
import RegistryLoad.Proofs.Registry.Delivery
import RegistryLoad.Proofs.Registry.Replay
import RegistryLoad.Proofs.Registry.Independence
import RegistryLoad.Proofs.Load.Roll
import RegistryLoad.Proofs.Load.Convergence
import RegistryLoad.Proofs.Topology.Sequence
import RegistryLoad.Proofs.Load.Separation
import RegistryLoad.Proofs.Decimal.Rounding
import RegistryLoad.Proofs.Decimal.Shortest
import RegistryLoad.Proofs.Json.Quoted
import RegistryLoad.Proofs.Json.Number
import RegistryLoad.Proofs.Scoreboard.Lines
import RegistryLoad.Proofs.Load.Ticks
import RegistryLoad.Proofs.Load.Stopping
import RegistryLoad.Proofs.Load.FailedStart
import RegistryLoad.Proofs.Load.Pacing
import RegistryLoad.Proofs.Load.Turns
import RegistryLoad.Proofs.Load.Doing
import RegistryLoad.Proofs.Load.Chronicle
import RegistryLoad.Proofs.Load.Shares
import RegistryLoad.Proofs.Load.Readiness
import RegistryLoad.Proofs.CommandLine.Origins
import RegistryLoad.Proofs.Load.Effect
import RegistryLoad.Proofs.Load.Display
import RegistryLoad.Proofs.Load.Recording
import RegistryLoad.Proofs.Load.Exchange
import RegistryLoad.Proofs.Load.RecordedSize
import RegistryLoad.Proofs.Settings.Accuracy
import RegistryLoad.Proofs.Settings.Spelling
import RegistryLoad.Proofs.Topology.Coverage
import RegistryLoad.Proofs.Settings.SpanSpelling
import RegistryLoad.Proofs.Text.Grouping
import RegistryLoad.Proofs.Text.Ruling
import RegistryLoad.Proofs.Scoreboard.Board
import RegistryLoad.Proofs.Queue.Sharing
