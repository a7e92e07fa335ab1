import WrenchLink.Subnet
import WrenchLink.Bytes
import WrenchLink.Text.Quoted
import WrenchLink.Wire.Cursor
import WrenchLink.Number.Decimal
import WrenchLink.Message.Frame
import WrenchLink.Packet
import WrenchLink.Session
import WrenchLink.Config.Reading
import WrenchLink.Config.Writing
import WrenchLink.Proofs.Message.RoundTrip
import WrenchLink.Proofs.Message.Grammar
import WrenchLink.Proofs.Sensor.Mismatch
import WrenchLink.Proofs.Manager.Follows
import WrenchLink.Proofs.Session.Run
import WrenchLink.Proofs.Session.Demultiplexing
import WrenchLink.Proofs.Session.Settling
import WrenchLink.Proofs.Session.Silence
import WrenchLink.Proofs.Board.Tokens
import WrenchLink.Proofs.Session.Attachment
import WrenchLink.Proofs.Sensor.Sample
import WrenchLink.Proofs.Session.Sampling
import WrenchLink.Proofs.Sensor.Reply
import WrenchLink.Proofs.Session.Exchange
import WrenchLink.Proofs.Message.Succession
import WrenchLink.Proofs.Session.LockStep
import WrenchLink.Proofs.Manager.BringUp
import WrenchLink.Proofs.Manager.Construction
import WrenchLink.Proofs.Session.BoardTable
import WrenchLink.Proofs.Session.Lifecycle
import WrenchLink.Proofs.Config.RoundTrip
import WrenchLink.Proofs.Message.ShortBuffer
import WrenchLink.Proofs.Session.Sending
import WrenchLink.Proofs.Manager.Numbering
import WrenchLink.Proofs.Session.Handlers
import WrenchLink.Proofs.Board.Transfer
import WrenchLink.Proofs.Session.Connecting
import WrenchLink.Proofs.Session.ReadBack
import WrenchLink.Proofs.Session.Failure
import WrenchLink.Proofs.Session.Locality
import WrenchLink.Proofs.Session.Independence
import WrenchLink.Proofs.Number.Order
import WrenchLink.Proofs.Sensor.Calibration
import WrenchLink.Proofs.Toml.Parsed
import WrenchLink.Proofs.Config.Keys
import WrenchLink.Proofs.Config.Description
import WrenchLink.Proofs.Address.DottedQuad
import WrenchLink.Proofs.Config.Address
import WrenchLink.Proofs.Address.Subnet
