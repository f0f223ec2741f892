import Zetta.Lib.SortedMap
import Zetta.Lib.Ring
import Zetta.Lib.Intervals
import Zetta.Lib.Bitmask
import Zetta.Lib.Runs
import Zetta.Basic
import Zetta.State.StreamBuffer
import Zetta.State.PacketWindow
import Zetta.Protocol.PacketNumber
import Zetta.Proofs.State.StreamBuffer
import Zetta.Lib.ByteReader
import Zetta.Protocol.Frame
import Zetta.Proofs.Protocol.Frame
import Zetta.Protocol.Transcript
import Zetta.State.Unacked
import Zetta.Crypto.Context
import Zetta.State.StreamState
import Zetta.Transport.Config
import Zetta.Lib.Program
import Zetta.Protocol.Packet
import Zetta.Transport.Actor
import Zetta.Transport.Congestion
import Zetta.Proofs.Transport.Congestion
import Zetta.Transport.HandshakeHandler
import Zetta.Transport.IncomingHandler
import Zetta.Transport.EventLoop
import Zetta.Transport.PacketSender
import Zetta.Transport.History
import Zetta.Transport.System
import Zetta.Transport.Sample
import Zetta.Machine.Step
import Zetta.Proofs.State.PacketWindow
import Zetta.Proofs.State.StreamState
import Zetta.Machine.Sound
import Zetta.Machine.Delivery
import Zetta.Machine.Keys
import Zetta.Proofs.Transport.Acknowledgment
import Zetta.Proofs.Transport.PacketSender
import Zetta.Proofs.Transport.FlowControl
import Zetta.Proofs.Transport.IncomingHandler
import Zetta.Proofs.Transport.EventLoop
import Zetta.Proofs.Transport.System
import Zetta.Proofs.Transport.Receipt
import Zetta.Proofs.Transport.Eliciting
import Zetta.Proofs.Transport.PacketNumber
import Zetta.Proofs.Transport.Retention
import Zetta.Proofs.Transport.Delivery
import Zetta.Proofs.Transport.FinalSize
import Zetta.Proofs.Transport.Surfacing
import Zetta.Proofs.Transport.StreamWindow
import Zetta.Proofs.Transport.KeyUpdate
import Zetta.Proofs.Crypto.KeySchedule
import Zetta.Proofs.Transport.Steady
import Zetta.Proofs.Transport.Conduct
import Zetta.Proofs.Transport.PathValidation
import Zetta.Transport.Cookie
import Zetta.Transport.Endpoint
import Zetta.Transport.Handshake
import Zetta.Transport.Router
import Zetta.Proofs.Transport.Handshake
import Zetta.Transport.Meeting
import Zetta.Proofs.Transport.Nonces
import Zetta.Transport.Network
import Zetta.Proofs.Transport.Router
import Zetta.Proofs.Transport.Attempt
import Zetta.Proofs.Transport.Response
import Zetta.Proofs.Protocol.Decode
import Zetta.Proofs.Transport.Clients
import Zetta.Proofs.Transport.Agreement
import Zetta.Machine.Books
import Zetta.Proofs.Transport.Deeds
import Zetta.Proofs.Transport.Flight
import Zetta.Proofs.Transport.Handling
import Zetta.Proofs.Transport.Accounts
import Zetta.Proofs.Transport.Holdings
import Zetta.Proofs.Transport.Queue
import Zetta.Proofs.Transport.Epochs
import Zetta.Proofs.Transport.Memory
import Zetta.Proofs.Transport.BufferLimit
import Zetta.Proofs.Transport.Lifecycle
import Zetta.Proofs.Transport.AckSize
import Zetta.Proofs.Transport.Datagrams
import Zetta.Proofs.Transport.PathMtu
import Zetta.Proofs.State.Reassembly
import Zetta.Proofs.Protocol.Header
import Zetta.Lib.IntervalSize
import Zetta.Machine.Stream
import Zetta.Proofs.State.StreamAccount
import Zetta.Proofs.State.StreamCredit
import Zetta.Proofs.Transport.StreamTable
import Zetta.Proofs.Transport.Reception
import Zetta.Proofs.Transport.ProbeTable
import Zetta.Proofs.Transport.PacketSize
import Zetta.Proofs.Transport.Reno
import Zetta.Proofs.Transport.Cookie
import Zetta.Proofs.Stream.Write
import Zetta.Proofs.Stream.Read
import Zetta.Proofs.Stream.Send
import Zetta.Proofs.Transport.ErrorCode
