import VianiumVoip.Lib.Run
import VianiumVoip.Lib.Bytes
import VianiumVoip.Dtls.Record
import VianiumVoip.Dtls.HandshakeMessages
import VianiumVoip.Cert.Asn1Builder
import VianiumVoip.Cert.EcdsaP256KeyPair
import VianiumVoip.Dtls.ClientSession
import VianiumVoip.Dtls.Deliveries
import VianiumVoip.Dtls.Authentication
import VianiumVoip.Dtls.AfterEstablished
import VianiumVoip.Dtls.RecordNonces
import VianiumVoip.Dtls.FlightTranscript
import VianiumVoip.Dtls.SessionHash
import VianiumVoip.Dtls.TranscriptBytes
import VianiumVoip.Lib.CheckedReads
import VianiumVoip.Dtls.BufferReads
import VianiumVoip.Dtls.ReadFaults
import VianiumVoip.Srtp.AesCtr
import VianiumVoip.Srtp.PacketCodec
import VianiumVoip.Srtp.SenderRun
import VianiumVoip.Srtp.SessionKeys
import VianiumVoip.Srtp.RoundTrip
import VianiumVoip.Tgcalls.Connection
import VianiumVoip.Tgcalls.SrtpReceive
import VianiumVoip.Tgcalls.RolloverReceive
import VianiumVoip.Lib.Sha256
import VianiumVoip.Tgcalls.AnnouncedFingerprint
import VianiumVoip.Lib.Tlv
import VianiumVoip.Turn.Message
import VianiumVoip.Turn.Client
import VianiumVoip.Ice.Agent
import VianiumVoip.Ice.Integrity
import VianiumVoip.Ice.Encoding
import VianiumVoip.Ice.Nomination
import VianiumVoip.Ice.CandidateParser
import VianiumVoip.Tgcalls.IcePhase
import VianiumVoip.Tgcalls.Trickle
import VianiumVoip.Tgcalls.DatagramSource
import VianiumVoip.Tgcalls.SetupRoles
import VianiumVoip.Engine.Dh
import VianiumVoip.Engine.IncomingAuthentication
import VianiumVoip.Engine.KeyAgreement
import VianiumVoip.Engine.CurrentKey
import VianiumVoip.Engine.MediaSession
import VianiumVoip.Tgcalls.AudioPhase
import VianiumVoip.Engine.MediaPlane
import VianiumVoip.Engine.Mute
import VianiumVoip.Ice.AgentRun
import VianiumVoip.Ice.Transactions
import VianiumVoip.Tgcalls.CandidatesOnce
import VianiumVoip.Engine.Signaling
import VianiumVoip.Lib.Fallible
import VianiumVoip.Engine.DhAtomic
import VianiumVoip.Engine.DynamicMediaGraph
import VianiumVoip.Engine.Sections
import VianiumVoip.Engine.DroppedCalls
import VianiumVoip.Engine.SignalingLedger
import VianiumVoip.Engine.SignalingOrder
import VianiumVoip.Engine.StartMedia
import VianiumVoip.Engine.OtherCall
import VianiumVoip.Engine.OrphanMedia
import VianiumVoip.Tgcalls.ConnectionParts
import VianiumVoip.Tgcalls.StopSections
import VianiumVoip.Ice.Interoperability
import VianiumVoip.Ice.RoundTrip
import VianiumVoip.Turn.Codec
import VianiumVoip.Turn.Threads
import VianiumVoip.Turn.Closing
import VianiumVoip.Turn.PendingSlot
import VianiumVoip.Lib.BlockModes
import VianiumVoip.Domain.MessageKey
import VianiumVoip.Signaling.Codec
import VianiumVoip.Relay.PacketCrypto
import VianiumVoip.Relay.ControlPacket
import VianiumVoip.Relay.StreamDataPacket
import VianiumVoip.Relay.JitterBuffer
import VianiumVoip.Relay.AudioRun
import VianiumVoip.Lib.Decimal
import VianiumVoip.Signaling.Json
import VianiumVoip.Signaling.Messages
import VianiumVoip.Signaling.Frames
import VianiumVoip.Signaling.Envelope
import VianiumVoip.Relay.ReflectorPacket
import VianiumVoip.Relay.ControlHandshake
import VianiumVoip.Relay.InitAckReads
import VianiumVoip.Relay.HandshakeSound
import VianiumVoip.Relay.FirstInit
import VianiumVoip.Relay.CallMedia
import VianiumVoip.Relay.SequenceReuse
import VianiumVoip.Relay.JitterRun
import VianiumVoip.Relay.JitterOverflow
import VianiumVoip.Relay.JitterStall
import VianiumVoip.Turn.MessageReads
import VianiumVoip.Turn.AddressExact
import VianiumVoip.Turn.LongTermKey
import VianiumVoip.Signaling.JsonPositions
import VianiumVoip.Tgcalls.SignalingCounters
import VianiumVoip.Ice.CandidateFormat
import VianiumVoip.Engine.ProtocolRouting
import VianiumVoip.Engine.PeerValues
import VianiumVoip.Engine.PendingQueue
import VianiumVoip.Engine.SessionStates
import VianiumVoip.Engine.Bitrate
import VianiumVoip.Engine.PrivateExponent
import VianiumVoip.Relay.StreamDataReads
import VianiumVoip.Domain.RtpPacket
import VianiumVoip.Tgcalls.RtpReceive
import VianiumVoip.Lib.RotatingQueue
import VianiumVoip.Relay.ReceiveQueue
import VianiumVoip.Lib.Blocks
import VianiumVoip.Engine.AudioQueues
import VianiumVoip.Lib.Crc
import VianiumVoip.Ice.Crc32
import VianiumVoip.Lib.Keystream
import VianiumVoip.Srtp.Keystream
import VianiumVoip.Dtls.FingerprintVariants
import VianiumVoip.Cert.SpkiScan
import VianiumVoip.Cert.Asn1Integer
import VianiumVoip.Cert.CallTree
import VianiumVoip.Cert.Certificate
import VianiumVoip.Lib.TwoParties
import VianiumVoip.Relay.HandshakePair
import VianiumVoip.Tgcalls.AudioChannel
import VianiumVoip.Tgcalls.LocalCandidates
import VianiumVoip.Lib.Simulation
import VianiumVoip.Tgcalls.WireSignaling
import VianiumVoip.Tgcalls.IdentityExchange
import VianiumVoip.Ice.Delivery
import VianiumVoip.Tgcalls.NeverConnected
import VianiumVoip.Turn.NoAllocation
import VianiumVoip.Tgcalls.Lifecycle
