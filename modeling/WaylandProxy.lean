import WaylandProxy.Capture.Line
import WaylandProxy.Capture.Load
import WaylandProxy.Config.Basic
import WaylandProxy.Config.Read
import WaylandProxy.Fault
import WaylandProxy.Input.Event
import WaylandProxy.Input.Options
import WaylandProxy.Input.Procedural
import WaylandProxy.Input.Script
import WaylandProxy.Input.Source
import WaylandProxy.Input.Synthesizer
import WaylandProxy.Journal
import WaylandProxy.Main
import WaylandProxy.Metrics.Basic
import WaylandProxy.Metrics.Counter
import WaylandProxy.Metrics.Histogram
import WaylandProxy.Metrics.Label
import WaylandProxy.Number.Binary64
import WaylandProxy.Number.Decimal
import WaylandProxy.Object.Describe
import WaylandProxy.Object.Interface
import WaylandProxy.Object.Map
import WaylandProxy.Pass.Basic
import WaylandProxy.Pass.Command
import WaylandProxy.Pass.Fuzz
import WaylandProxy.Pass.Interactive
import WaylandProxy.Pass.Router
import WaylandProxy.Pass.Stage
import WaylandProxy.Pass.Sum
import WaylandProxy.Pass.Trace
import WaylandProxy.Program
import WaylandProxy.Random.ChaCha
import WaylandProxy.Random.Draws
import WaylandProxy.Serial.Clock
import WaylandProxy.Serial.Ring
import WaylandProxy.Serial.Table
import WaylandProxy.Serial.Tracker
import WaylandProxy.Session.Replay
import WaylandProxy.Session.Run
import WaylandProxy.Session.Schedule
import WaylandProxy.Session.Transcript
import WaylandProxy.Storage
import WaylandProxy.Storage.Tree
import WaylandProxy.Text.Blank
import WaylandProxy.Text.Hex
import WaylandProxy.Text.Printable
import WaylandProxy.Text.Quoted
import WaylandProxy.Text.Utf8
import WaylandProxy.Wire.Argument
import WaylandProxy.Wire.Fixed
import WaylandProxy.Wire.Message
import WaylandProxy.World
import WaylandProxy.Yaml.Anchor
import WaylandProxy.Yaml.Cursor
import WaylandProxy.Yaml.Node
import WaylandProxy.Yaml.Scalar
import WaylandProxy.Yaml.Tag
import WaylandProxy.Yaml.Token
import WaylandProxy.Proofs.Machine
import WaylandProxy.Proofs.Outcome
import WaylandProxy.Proofs.Serial.Acknowledgement
import WaylandProxy.Proofs.Wire.Words
import WaylandProxy.Proofs.Traffic
import WaylandProxy.Proofs.Input.Group
import WaylandProxy.Proofs.Input.Tick
import WaylandProxy.Proofs.Input.Injector
import WaylandProxy.Proofs.Metrics.Sums
import WaylandProxy.Proofs.Input.Emission
import WaylandProxy.Proofs.Input.Attempt
import WaylandProxy.Proofs.Input.Retry
import WaylandProxy.Proofs.Input.Flush
import WaylandProxy.Proofs.Pass.SoleFuzz
import WaylandProxy.Proofs.Input.Serials
import WaylandProxy.Proofs.Pass.SerialSequence
import WaylandProxy.Proofs.Serial.Place
import WaylandProxy.Proofs.Object.Observation
import WaylandProxy.Proofs.Pass.Following
import WaylandProxy.Proofs.Pass.SerialWord
import WaylandProxy.Proofs.Serial.Ring
import WaylandProxy.Proofs.Serial.Answer
import WaylandProxy.Proofs.Serial.Genuine
import WaylandProxy.Proofs.Pass.Interference
import WaylandProxy.Proofs.Serial.Callback
import WaylandProxy.Proofs.Serial.Correlation
import WaylandProxy.Proofs.Object.Lifetime
import WaylandProxy.Proofs.Pass.LostCallback
import WaylandProxy.Proofs.Wire.Codec
import WaylandProxy.Proofs.Random.Range
import WaylandProxy.Proofs.Input.Legality
import WaylandProxy.Proofs.Serial.Discovery
import WaylandProxy.Proofs.Pass.Readiness
import WaylandProxy.Proofs.Pass.DroppedSync
import WaylandProxy.Proofs.Text.Fields
import WaylandProxy.Proofs.Number.Decimal
import WaylandProxy.Proofs.Text.Hex
import WaylandProxy.Proofs.Capture.Line
import WaylandProxy.Proofs.Session.Sinks
import WaylandProxy.Proofs.Pass.SinkFree
import WaylandProxy.Proofs.Session.Replay
import WaylandProxy.Proofs.Pass.Bystander
import WaylandProxy.Proofs.Session.Transparency
import WaylandProxy.Proofs.Object.Binding
import WaylandProxy.Proofs.Pass.Block
import WaylandProxy.Proofs.Pass.Equipped
import WaylandProxy.Proofs.Input.Timing
import WaylandProxy.Proofs.Input.LikeGenuine
import WaylandProxy.Proofs.Pass.Foreign
import WaylandProxy.Proofs.Pass.Chain
import WaylandProxy.Proofs.Pass.Operator
import WaylandProxy.Proofs.Pass.Lifecycle
import WaylandProxy.Proofs.Serial.Queue
import WaylandProxy.Proofs.Serial.Malformed
import WaylandProxy.Proofs.Serial.FrameClock
import WaylandProxy.Proofs.Wire.Reading
import WaylandProxy.Proofs.Input.Lookahead
import WaylandProxy.Proofs.Object.Update
import WaylandProxy.Proofs.Object.Display
import WaylandProxy.Proofs.Input.ScriptLine
import WaylandProxy.Proofs.Input.ScriptPace
import WaylandProxy.Proofs.Metrics.Labels
import WaylandProxy.Proofs.Capture.Load
import WaylandProxy.Proofs.Metrics.Series
import WaylandProxy.Proofs.Metrics.Tally
import WaylandProxy.Proofs.Metrics.Exposition
import WaylandProxy.Proofs.Input.Arguments
import WaylandProxy.Proofs.Pass.Refusal
import WaylandProxy.Proofs.Setup
