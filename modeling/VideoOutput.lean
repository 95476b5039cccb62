import VideoOutput.Compositor.Rehearsal
import VideoOutput.Main
import VideoOutput.Poll.Wait
import VideoOutput.Pool.History
import VideoOutput.Proofs.Client.ToplevelStates
import VideoOutput.Proofs.Exchange.Freshness
import VideoOutput.Proofs.Format.Feedback
import VideoOutput.Proofs.Outputs.Bookkeeping
import VideoOutput.Proofs.Outputs.Scale
import VideoOutput.Proofs.Pacing.Misses
import VideoOutput.Proofs.Pacing.Vsync
import VideoOutput.Proofs.Pool.Gating
import VideoOutput.Proofs.Pool.Reset
import VideoOutput.Proofs.Seats.Notices
import VideoOutput.Proofs.Window.Coalescing
import VideoOutput.Proofs.Window.Dialogue
import VideoOutput.Proofs.Window.Dictated
import VideoOutput.Proofs.Window.Floating
import VideoOutput.Proofs.Window.RoundTrip
import VideoOutput.Proofs.Window.SideTraffic
import VideoOutput.Window.Op
import VideoOutput.Proofs.Poll.Wakeups
import VideoOutput.Proofs.Client.Closing
import VideoOutput.Proofs.Config.Documents
import VideoOutput.Proofs.Config.Fields
import VideoOutput.Proofs.Config.Layers
import VideoOutput.Proofs.Exchange.Closing
import VideoOutput.Proofs.Pool.Backends
import VideoOutput.Proofs.Client.Imports
import VideoOutput.Proofs.Config.Leaves
import VideoOutput.Proofs.Pacing.Ranges
import VideoOutput.Proofs.Exchange.Lifetimes
import VideoOutput.Proofs.Frame.Layouts
import VideoOutput.Proofs.Geometry.Letterbox
import VideoOutput.Proofs.Window.Decorations
import VideoOutput.Proofs.Window.Repetition
import VideoOutput.Proofs.Geometry.Edges
import VideoOutput.Proofs.Poll.Waits
import VideoOutput.Proofs.Window.Rescaling
import VideoOutput.Proofs.Geometry.LowestTerms
import VideoOutput.Proofs.Format.Records
import VideoOutput.Proofs.Format.Listing
import VideoOutput.Proofs.Window.Phases
