import Scoreline.Main
import Scoreline.Text.Alignment
import Scoreline.Proofs.Cumulative
import Scoreline.Proofs.Isolation
import Scoreline.Proofs.Rearrangement
import Scoreline.Proofs.Machine.Safety
import Scoreline.Proofs.Feed.Agreement
import Scoreline.Proofs.Command.Agreement
import Scoreline.Proofs.Source
import Scoreline.Proofs.Json.Real
import Scoreline.Proofs.Lead
import Scoreline.Proofs.Chart.Form
import Scoreline.Proofs.Command.Output
import Scoreline.Proofs.Feed.Distinct
import Scoreline.Proofs.Feed.Mount
import Scoreline.Proofs.Window
import Scoreline.Proofs.Translation
import Scoreline.Proofs.Resolution
import Scoreline.Proofs.Capture
import Scoreline.Proofs.Counts
import Scoreline.Proofs.Clipping
import Scoreline.Proofs.Faults
import Scoreline.Proofs.Present
import Scoreline.Proofs.Rescoring
import Scoreline.Proofs.Chart.Outcome
import Scoreline.Proofs.Command.Guards
import Scoreline.Proofs.Command.Precedence
import Scoreline.Proofs.Command.Replay
import Scoreline.Proofs.Feed.Category
import Scoreline.Proofs.Name
import Scoreline.Proofs.Ranking
import Scoreline.Proofs.Naming
import Scoreline.Proofs.Json.Tree
import Scoreline.Proofs.Json.Passing
import Scoreline.Proofs.Json.Sound
import Scoreline.Proofs.Json.Spelled
import Scoreline.Proofs.Json.Numerals
import Scoreline.Proofs.Json.Unique
import Scoreline.Proofs.Json.Reads
import Scoreline.Proofs.Json.Record
import Scoreline.Proofs.Json.Additions
import Scoreline.Proofs.Payload
import Scoreline.Proofs.Feed.Complaint
import Scoreline.Proofs.Feed.Call
