import VividProtocol.Library.BigEndian
import VividProtocol.Library.Result
import VividProtocol.Library.Transition
import VividProtocol.Library.Framing
import VividProtocol.Library.OrderedMap
import VividProtocol.Library.Replica
import VividProtocol.Counters
import VividProtocol.Identity
import VividProtocol.Cbor.Codec
import VividProtocol.Cbor.Head
import VividProtocol.Cbor.RoundTrip
import VividProtocol.Messages
import VividProtocol.Lease.Machine
import VividProtocol.Lease.Effect
import VividProtocol.Lease.Invariant
import VividProtocol.Lease.Replay
import VividProtocol.Input.Gate
import VividProtocol.Input.FinalGate
import VividProtocol.Input.Payload
import VividProtocol.Grant.Presenter
import VividProtocol.Grant.Effect
import VividProtocol.Grant.Generation
import VividProtocol.Grant.Consent
import VividProtocol.Grant.Control
import VividProtocol.Grant.Lockstep
import VividProtocol.Resource
import VividProtocol.Track.State
import VividProtocol.Track.Recovery
import VividProtocol.Track.Loss
import VividProtocol.Track.ChannelOpen
import VividProtocol.Track.Authority
import VividProtocol.Wire.Record
import VividProtocol.Wire.Vectored
import VividProtocol.Wire.Writer
import VividProtocol.Wire.Effect
import VividProtocol.Wire.Reader
import VividProtocol.Wire.Stream
import VividProtocol.Retained.Scene
import VividProtocol.Retained.Serial
import VividProtocol.Retained.Isolation
import VividProtocol.Observations.Queue
import VividProtocol.Observations.Loss
import VividProtocol.Idempotency.Cache
import VividProtocol.Idempotency.Answers
import VividProtocol.Delegation.Ledger
import VividProtocol.Delegation.Context
import VividProtocol.Retained.Effect
import VividProtocol.Overlay.Geometry
import VividProtocol.Overlay.Event
import VividProtocol.Overlay.State
import VividProtocol.Overlay.Emit
import VividProtocol.Library.OrderedForest
import VividProtocol.Overlay.Shed
import VividProtocol.Overlay.Operations
import VividProtocol.Overlay.Outcome
import VividProtocol.Overlay.Effect
import VividProtocol.Overlay.Invariant
import VividProtocol.Overlay.Moves
import VividProtocol.Overlay.Routing
import VividProtocol.Overlay.Yield
import VividProtocol.Overlay.Modal
import VividProtocol.Overlay.Calm
import VividProtocol.Overlay.Refusal
import VividProtocol.Overlay.Closing
import VividProtocol.Overlay.Options
import VividProtocol.Overlay.Snapshot
import VividProtocol.Overlay.Told
import VividProtocol.Overlay.Hush
import VividProtocol.Overlay.Gesture
import VividProtocol.Library.Coalescing
import VividProtocol.Overlay.Queue
import VividProtocol.Overlay.Delivery
import VividProtocol.Overlay.Overflow
import VividProtocol.Auth.Transcript
import VividProtocol.Library.Base64Url
import VividProtocol.Anchor.Marker
import VividProtocol.Anchor.Conpty
import VividProtocol.Anchor.Recovery
import VividProtocol.Library.Codec
import VividProtocol.Cbor.Canonical
import VividProtocol.Overlay.Wire.Fields
import VividProtocol.Overlay.Wire.Window
import VividProtocol.Overlay.Wire.Status
import VividProtocol.Overlay.Wire.Semantics
import VividProtocol.Overlay.Wire.Control
import VividProtocol.Overlay.Wire.InputEvent
import VividProtocol.Overlay.Wire.Dispatch
import VividProtocol.Drawing.Commands
import VividProtocol.Drawing.Codec
import VividProtocol.Overlay.Wire.Styled
import VividProtocol.Overlay.Wire.Batch
import VividProtocol.Overlay.Wire.Measured
import VividProtocol.Overlay.Wire.Measure
import VividProtocol.TokenBucket
import VividProtocol.Cbor.Append
import VividProtocol.Cbor.Preserving
import VividProtocol.Cbor.Merging
import VividProtocol.Library.Association
import VividProtocol.Control.Maps
import VividProtocol.Control.Envelope
import VividProtocol.Control.Registry
import VividProtocol.Control.Hello
import VividProtocol.Control.Contract
import VividProtocol.Control.Welcome
import VividProtocol.Control.Handshake
import VividProtocol.Library.Fields
import VividProtocol.Media.Packet
import VividProtocol.Media.Delta
import VividProtocol.Cbor.Equality
import VividProtocol.Cbor.Size
import VividProtocol.Surface.State
import VividProtocol.Lease.Exhaustion
import VividProtocol.Delegation.Exhaustion
import VividProtocol.Track.Charge
import VividProtocol.Library.Credit
import VividProtocol.FileDrop.Flow
import VividProtocol.FileDrop.Credit
import VividProtocol.FileDrop.Reassembly
import VividProtocol.FileDrop.Records
import VividProtocol.FileDrop.Agreement
import VividProtocol.FileDrop.Gate
import VividProtocol.Drawing.Legal
import VividProtocol.Drawing.Reading
import VividProtocol.Drawing.Forwarding
import VividProtocol.Drawing.Frame
import VividProtocol.Desktop.Target
import VividProtocol.Desktop.Parameters
import VividProtocol.Desktop.Generation
import VividProtocol.Media.Initialization
import VividProtocol.Track.Configuration
import VividProtocol.Track.Survival
import VividProtocol.Library.Alternation
import VividProtocol.Overlay.Loss
import VividProtocol.Overlay.Attention
import VividProtocol.Overlay.Minding
import VividProtocol.Overlay.Steady
import VividProtocol.Overlay.Dangling
import VividProtocol.Overlay.Unrevoked
import VividProtocol.Wire.Calls
import VividProtocol.Wire.Flushing
import VividProtocol.Library.Delimited
import VividProtocol.Library.Bounds
import VividProtocol.Media.AnnexB
import VividProtocol.Media.NalUnits
import VividProtocol.Media.Avcc
import VividProtocol.Media.Vorbis
import VividProtocol.Library.SignedWords
import VividProtocol.Geometry.Rect
import VividProtocol.Geometry.Fit
import VividProtocol.Geometry.Edges
import VividProtocol.Geometry.Surface
import VividProtocol.Drawing.Limits
import VividProtocol.Drawing.Measures
import VividProtocol.Library.RootedTree
import VividProtocol.Overlay.Wire.Tree
import VividProtocol.Composed.Model
import VividProtocol.Composed.Fire
import VividProtocol.Composed.Lease
import VividProtocol.Composed.Grants
import VividProtocol.Composed.Sound
import VividProtocol.Composed.Session
import VividProtocol.Composed.Transport
import VividProtocol.Composed.Binding
import VividProtocol.Composed.Safety
import VividProtocol.Composed.Frame
import VividProtocol.Composed.Regression
import VividProtocol.Control.ErrorReply
import VividProtocol.Wire.Preface
import VividProtocol.Wire.FirstRecord
import VividProtocol.Control.Establishment
import VividProtocol.FileDrop.LaneRecords
import VividProtocol.FileDrop.LaneAgreement
import VividProtocol.Library.Paths
import VividProtocol.FileDrop.CommittedPath
import VividProtocol.Control.Openings
import VividProtocol.Library.Exploration
import VividProtocol.FileDrop.Lifecycle
import VividProtocol.FileDrop.LifecycleSearch
import VividProtocol.Media.Compression
import VividProtocol.Track.Timed
import VividProtocol.Drawing.Building
import VividProtocol.Library.LossyQueue
import VividProtocol.Library.Template
import VividProtocol.Trace.Line
import VividProtocol.Trace.Queue
import VividProtocol.Control.Requests
