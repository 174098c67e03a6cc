import Stopwatch.Main
import Stopwatch.Proofs.Collector
import Stopwatch.Proofs.Files.Outside
import Stopwatch.Proofs.Files.Sources
import Stopwatch.Proofs.Host.Action
import Stopwatch.Proofs.Host.Children
import Stopwatch.Proofs.Host.Logged
import Stopwatch.Proofs.Host.Modules
import Stopwatch.Proofs.Instrument.Analysis
import Stopwatch.Proofs.Instrument.Docstrings
import Stopwatch.Proofs.Instrument.Layouts
import Stopwatch.Proofs.Instrument.Removal
import Stopwatch.Proofs.Locate
import Stopwatch.Proofs.Package.Build
import Stopwatch.Proofs.Package.Copy
import Stopwatch.Proofs.Package.Launcher
import Stopwatch.Proofs.Package.Prepare
import Stopwatch.Proofs.Package.Rewriting
import Stopwatch.Proofs.Package.Skipped
import Stopwatch.Proofs.Run.Raised
import Stopwatch.Proofs.Files.Alike
import Stopwatch.Proofs.Run.SingleFiles
import Stopwatch.Proofs.Diagnostics
import Stopwatch.Proofs.Metric.Tagged
import Stopwatch.Proofs.Metric.Times
import Stopwatch.Proofs.Process.Supervised
import Stopwatch.Proofs.Files.CopyNames
import Stopwatch.Proofs.Files.Grounds
import Stopwatch.Proofs.Run.Copies
import Stopwatch.Proofs.Run.Leftovers
import Stopwatch.Proofs.Results
import Stopwatch.Proofs.Stages
import Stopwatch.Proofs.Invocation
import Stopwatch.Proofs.Package.Archive
import Stopwatch.Proofs.Program.Calls
import Stopwatch.Proofs.Run.Commands
import Stopwatch.Proofs.Metric.Statistics
import Stopwatch.Proofs.Metric.Written
import Stopwatch.Proofs.Process.Progress
import Stopwatch.Proofs.Files.Discovered
import Stopwatch.Proofs.Console.Escape
import Stopwatch.Proofs.Run.Events
import Stopwatch.Proofs.Run.Order
import Stopwatch.Proofs.Run.Without
import Stopwatch.Proofs.Stages.Blocks
import Stopwatch.Proofs.Run.Guards
