import StoneNet.Sstp.Handshake

/-! The relayed handshake: `relay_with_timeout` sends a RELAY_HELLO to a relayer, which opens
a relay session and passes the HELLO on to the target as a RELAYED_HELLO; the target's
answer is to come back through the relayer, which then bridges CRYPTED packets. -/
namespace StoneNet

namespace Server

variable (P : Platform) (s : Server) (env : Env)

/-- `relay_with_timeout` up to its loop: the link to the relayer is dialled, the session for
the target created with the relayer's node id, and the RELAY_HELLO composed once, with the
link's `max_packet_length()` as `_max_len`. It ends early with an error, or with the panic of
`new_relay_hello_packet`. -/
def relayStart (link : Link) (relayNodeId : IdType) (target : SocketAddr) (targetNodeId : IdType) (timeout : Nat)
    (helloChannel packetProcessor : ChannelId) : Server × Except Connect Connecting :=
  if env.connectFails then (s, .error (.failed .io))
  else
    match s.sessions.newOutgoingSession (some targetNodeId)
        (outgoingData (some relayNodeId) helloChannel packetProcessor) timeout env.now with
    | (none, sessions) => (s.withSessions sessions, .error (.failed .outOfSessions))
    | (some localSessionId, sessions) =>
      match newRelayHelloPacket P s.privateKey s.ourContactInfo link.maxPacketLength target localSessionId
          (P.crypto.dhPublic env.dhPrivateKey) with
      | .error p => (s.withSessions sessions, .error (.panicked p))
      | .ok packet =>
        (s.withSessions sessions,
          .ok ⟨target, some targetNodeId, localSessionId, env.dhPrivateKey, packet, false, helloChannel⟩)

/-- The arm of `relay_with_timeout` that takes a result from the hello channel. -/
def relayReceive (c : Connecting) (result : HelloResult) : Server × Connect :=
  if result.response.isSome then (s, .panicked .debugAssertion)
  else if c.nodeId ≠ some result.theirNodeId then (s, .failed .invalidNodeId)
  else
    let transporter : TransporterHandle := ⟨result.encryptSessionId, c.localSessionId,
      result.destSessionId, s.nodeId, result.theirNodeId, c.dhPrivateKey, result.dhPublicKey⟩
    (s.withSessions (s.sessions.updateDirect c.localSessionId fun d => { d with handle := some transporter }),
      .connected ⟨transporter, defaultKeepAliveIdleTime, c.target, result.theirNodeId, result.contactInfo,
        result.destSessionId, result.encryptSessionId, c.localSessionId⟩ none)

end Server

set_option maxRecDepth 4000 in
/-- A relayed handshake that stalls at the relayer. The relayer accepts a signed RELAY_HELLO
from `A` and passes it on; the target answers from a table whose next id is 5, recording
`A`'s node id with the relay session id and `A`'s session id. Its answer is a HELLO_ACK,
which the relayer's `process_hello_ack_packet` checks against the relay session's node id,
the address of `A`'s key rather than the target's: it fails with `InvalidNodeId`, the
relay session keeps target session id 0, and nothing ever goes to `A`. -/
theorem relayed_handshake_stalls :
    let addrA : SocketAddr := .v4 (.replicate 4 1) 1
    let addrR : SocketAddr := .v4 (.replicate 4 2) 2
    let addrB : SocketAddr := .v4 (.replicate 4 3) 3
    let hello : RelayHelloPacket :=
      ⟨⟨.ofSocketAddr addrB, ⟨.replicate 32 1, .replicate 64 1⟩⟩, ⟨.replicate 32 4, 0, ⟨none, none⟩⟩⟩
    let relayer := Server.bind ⟨none, none⟩ (.replicate 32 2) (.replicate 32 2) 10
    let target := (Server.bind ⟨none, none⟩ (.replicate 32 3) (.replicate 32 3) 10).withSessions
      { Sessions.new with cursor := 5 }
    let accepted := relayer.processPacket Platform.insecure ⟨0, .replicate 32 5, 0, false, false⟩ ⟨false, 1280⟩
      addrA (packetTypeRelayHello :: (RelayHelloPacket.codec ContactInfo.codec).encode hello)
    let answered := target.processPacket Platform.insecure ⟨1, .replicate 32 6, 0, false, false⟩ ⟨false, 1280⟩
      addrR ((sentTo addrB accepted.effects).headD [])
    let forwarded := accepted.server.processPacket Platform.insecure ⟨2, .replicate 32 7, 0, false, false⟩
      ⟨false, 1280⟩ addrB ((sentTo addrR answered.effects).headD [])
    accepted.outcome = .ok ∧ (sentTo addrB accepted.effects).length = 1 ∧
    answered.outcome = .ok ∧ (sentTo addrR answered.effects).length = 1 ∧
    (answered.server.sessions.map.lookup 5).map SessionData.directPair = some (some (.replicate 32 1, 0)) ∧
    forwarded.outcome = .err .invalidNodeId ∧ forwarded.effects = [] ∧
    (forwarded.server.sessions.map.lookup 0).map SessionData.transportData =
      some (.relay ⟨0, addrA, 0, addrB⟩) ∧
    sentTo addrA (accepted.effects ++ forwarded.effects) = [] := by
  decide

end StoneNet
