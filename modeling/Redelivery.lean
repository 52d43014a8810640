import Redelivery.Buffer
import Redelivery.Bytes
import Redelivery.Cable
import Redelivery.Crc32
import Redelivery.Failure
import Redelivery.Frame
import Redelivery.Handshake
import Redelivery.Header
import Redelivery.Pool
import Redelivery.Proofs.Cable
import Redelivery.Proofs.Composition
import Redelivery.Proofs.Datagram
import Redelivery.Proofs.Lending
import Redelivery.Proofs.Lending.Stacks
import Redelivery.Proofs.Link
import Redelivery.Proofs.Network
import Redelivery.Proofs.Network.Abandoning
import Redelivery.Proofs.Network.Answering
import Redelivery.Proofs.Network.Arrivals
import Redelivery.Proofs.Network.AtWork
import Redelivery.Proofs.Network.Bystanders
import Redelivery.Proofs.Network.Closers
import Redelivery.Proofs.Network.Closing
import Redelivery.Proofs.Network.Companions
import Redelivery.Proofs.Network.Conservation
import Redelivery.Proofs.Network.Deadline
import Redelivery.Proofs.Network.Delivery
import Redelivery.Proofs.Network.Effects
import Redelivery.Proofs.Network.Failing
import Redelivery.Proofs.Network.Flow
import Redelivery.Proofs.Network.Flushing
import Redelivery.Proofs.Network.Forgery
import Redelivery.Proofs.Network.Incidents
import Redelivery.Proofs.Network.Invariant
import Redelivery.Proofs.Network.Listening
import Redelivery.Proofs.Network.Meeting
import Redelivery.Proofs.Network.Merging
import Redelivery.Proofs.Network.Numbering
import Redelivery.Proofs.Network.Outside
import Redelivery.Proofs.Network.Piggybacking
import Redelivery.Proofs.Network.Readers
import Redelivery.Proofs.Network.Reassembly
import Redelivery.Proofs.Network.Recovery
import Redelivery.Proofs.Network.Sides
import Redelivery.Proofs.Network.Sound
import Redelivery.Proofs.Network.Starting
import Redelivery.Proofs.Network.Steady
import Redelivery.Proofs.Network.Sufficiency
import Redelivery.Proofs.Network.Waking
import Redelivery.Proofs.Network.Writers
import Redelivery.Proofs.Pieces
import Redelivery.Proofs.Reuse.Stage
import Redelivery.Proofs.Reuse.Strict
import Redelivery.Proofs.Reuse.Unobservable
import Redelivery.Proofs.RoundTrips
import Redelivery.Proofs.Serial
import Redelivery.Proofs.Serial.Order
import Redelivery.Proofs.Session.Accounting
import Redelivery.Proofs.Session.Announcing
import Redelivery.Proofs.Session.Attentive
import Redelivery.Proofs.Session.Closing
import Redelivery.Proofs.Session.Deadline
import Redelivery.Proofs.Session.Delivering
import Redelivery.Proofs.Session.Evolution
import Redelivery.Proofs.Session.Flush
import Redelivery.Proofs.Session.Flusher
import Redelivery.Proofs.Session.Handshake
import Redelivery.Proofs.Session.Holding
import Redelivery.Proofs.Session.Idle
import Redelivery.Proofs.Session.Latecomers
import Redelivery.Proofs.Session.Listening
import Redelivery.Proofs.Session.Orderly
import Redelivery.Proofs.Session.Reader
import Redelivery.Proofs.Session.Reading
import Redelivery.Proofs.Session.Shaking
import Redelivery.Proofs.Session.Sparing
import Redelivery.Proofs.Session.Trying
import Redelivery.Proofs.Session.Waiting
import Redelivery.Proofs.Session.Writer
import Redelivery.Proofs.Settings
import Redelivery.Proofs.Stream.Accounting
import Redelivery.Proofs.Stream.Alike
import Redelivery.Proofs.Stream.Assembling
import Redelivery.Proofs.Stream.Effects
import Redelivery.Proofs.Stream.Packing
import Redelivery.Proofs.Stream.Receiving
import Redelivery.Proofs.Stream.Repeating
import Redelivery.Proofs.Strict.Agents
import Redelivery.Proofs.Strict.Session
import Redelivery.Proofs.Strict.Stream
import Redelivery.Proofs.Strict.Window
import Redelivery.Proofs.Strict.Wire
import Redelivery.Proofs.Translation.Agents
import Redelivery.Proofs.Translation.Session
import Redelivery.Proofs.Translation.Stream
import Redelivery.Proofs.Translation.Unmoved
import Redelivery.Proofs.Translation.Window
import Redelivery.Proofs.Translation.Wire
import Redelivery.Proofs.Window.Acknowledgement
import Redelivery.Proofs.Window.Entries
import Redelivery.Proofs.Window.Keeping
import Redelivery.Proofs.Window.Lookup
import Redelivery.Proofs.Window.Merging
import Redelivery.Proofs.Window.Preceding
import Redelivery.Proofs.Window.Receiving
import Redelivery.Proofs.Window.Repeating
import Redelivery.Proofs.Window.Representation
import Redelivery.Proofs.Window.Sending
import Redelivery.Proofs.Window.Spans
import Redelivery.Proofs.Window.Trailing
import Redelivery.Proofs.Window.View
import Redelivery.Proofs.Wire.Corruption
import Redelivery.Proofs.Wire.Crc32
import Redelivery.Proofs.Wire.Grammar
import Redelivery.Proofs.Wire.RoundTrip
import Redelivery.RoundTrips
import Redelivery.Section
import Redelivery.Segment
import Redelivery.Serial
import Redelivery.Session
import Redelivery.Session.Agent
import Redelivery.Session.Closer
import Redelivery.Session.Flush
import Redelivery.Session.Flusher
import Redelivery.Session.Reader
import Redelivery.Session.Writer
import Redelivery.Settings
import Redelivery.Simulation
import Redelivery.Simulation.Endpoint
import Redelivery.Simulation.Socket
import Redelivery.Stream.Basic
import Redelivery.Stream.Incoming
import Redelivery.Stream.Outgoing
import Redelivery.Traffic
import Redelivery.Window
