import StoneNet.Codec
import StoneNet.Crypto
import StoneNet.Sstp.Packet
import StoneNet.Sstp.Hello
import StoneNet.Sstp.Sessions
import StoneNet.Sstp.Server
import StoneNet.Sstp.Handshake
import StoneNet.Sstp.Relay
import StoneNet.Node
import StoneNet.Node.Contact
import StoneNet.Node.Buckets
import StoneNet.Node.Candidates
import StoneNet.Node.FindNode
import StoneNet.Node.FindValue
import StoneNet.Node.Fingers
import StoneNet.Node.Connect
