import StoneNet.Sstp.Hello
import StoneNet.Sstp.Sessions

/-! The packet layer of `Server`: `process_packet` and the handlers it dispatches to. A call
of a handler is one step. It reads the server, the link the packet came in on and what the
outside world answers during the call (the time, a fresh Diffie-Hellman key, the number of
a new channel, whether a send or a dial fails), and gives the new server, what it sent and
handed on, and how it ended: `Ok`, an error, or a panic of the task. `trace.rs` only
compiles with debug assertions, so a failed `debug_assert!` is a panic in every build. -/
namespace StoneNet

/-- `process_first_request` with the message processor installed; `none` is no response,
also when no processor is set. -/
abbrev MessageProcessor := Bytes → SocketAddr → IdType → ContactInfo → Option Bytes

/-- The server state the handlers read and write. -/
structure Server where
  ourContactInfo : ContactInfo
  sessions : Sessions
  nodeId : IdType
  privateKey : PrivateKey
  defaultTimeout : Nat
  messageProcessor : MessageProcessor

/-- `Server::bind`, with the contact info `ContactInfo::from_config` makes and no message
processor yet. -/
def Server.bind (ourContactInfo : ContactInfo) (nodeId : IdType) (privateKey : PrivateKey)
    (defaultTimeout : Nat) : Server :=
  ⟨ourContactInfo, Sessions.new, nodeId, privateKey, defaultTimeout, fun _ _ _ _ => none⟩

/-- `Server::set_message_processor`; the cell is set once. -/
def Server.setMessageProcessor (s : Server) (messageProcessor : MessageProcessor) : Server :=
  { s with messageProcessor := messageProcessor }

/-- The sending half of the link a packet came in on, bound to the packet's sender. -/
structure Link where
  connectionBased : Bool
  maxPacketLength : Nat
  deriving DecidableEq

/-- What the outside world answers during one call. -/
structure Env where
  now : Nat
  dhPrivateKey : DhPrivateKey
  channel : ChannelId
  sendFails : Bool
  connectFails : Bool
  deriving DecidableEq

/-- What a hello channel carries: the peer's node id and contact info, the encrypt and
dest session ids, the peer's Diffie-Hellman key and the piggybacked response. -/
structure HelloResult where
  theirNodeId : IdType
  contactInfo : ContactInfo
  encryptSessionId : UInt16
  destSessionId : UInt16
  dhPublicKey : DhPublicKey
  response : Option Bytes
  deriving DecidableEq

structure CryptedPacket where
  ksSeq : UInt16
  seq : UInt16
  data : Bytes
  deriving DecidableEq

/-- The `Connection` a handshake ends with, without the server it points back to. -/
structure Connection where
  transporter : TransporterHandle
  keepAliveTimeout : Nat
  peerAddress : SocketAddr
  peerNodeId : IdType
  peerContactInfo : ContactInfo
  destSessionId : UInt16
  encryptSessionId : UInt16
  localSessionId : UInt16
  deriving DecidableEq

/-- What a call does besides changing the server. -/
inductive Effect where
  /-- A datagram on the link to `target`. -/
  | send (target : SocketAddr) (packet : Bytes)
  | hello (channel : ChannelId) (result : HelloResult)
  | deliver (channel : ChannelId) (packet : CryptedPacket)
  | spawn (transporter : TransporterHandle)
  /-- A first response that missed the HELLO_ACK, queued on the new transporter. -/
  | queue (transporter : TransporterHandle) (response : Bytes)
  | close (target : SocketAddr)
  /-- A connection handed to `handle_connection_loop`. -/
  | connected (connection : Connection)
  deriving DecidableEq

inductive Outcome where
  | ok
  | err (e : Error)
  | panic (p : Panic)
  deriving DecidableEq

structure Run where
  server : Server
  effects : List Effect
  outcome : Outcome

/-- `relay_crypted_packet`: the packet with its session id replaced. -/
def relayCryptedPacket (newSessionId : UInt16) (buffer : Bytes) : Bytes :=
  packetTypeCrypted :: (Codec.u16.encode newSessionId ++ buffer)

namespace Server

variable (P : Platform) (s : Server) (env : Env)

def withSessions (sessions : Sessions) : Server := { s with sessions := sessions }

/-- `process_crypted_packet`. The three `array_ref!`s read the first six bytes. -/
def processCryptedPacket (buffer : Bytes) (sender : SocketAddr) : Run :=
  match buffer with
  | s0 :: s1 :: k0 :: k1 :: q0 :: q1 :: data =>
    let sessionId := UInt16.ofNat (s0.toNat + 256 * s1.toNat)
    let packet : CryptedPacket :=
      ⟨UInt16.ofNat (k0.toNat + 256 * k1.toNat), UInt16.ofNat (q0.toNat + 256 * q1.toNat), data⟩
    let forwarded := k0 :: k1 :: q0 :: q1 :: data
    let effects := match s.sessions.map.lookup sessionId with
      | some { transportData := .direct d, .. } =>
        if env.sendFails then [] else [.deliver d.packetProcessor packet]
      | some { transportData := .relay r, .. } =>
        if env.sendFails then []
        else if sender = r.sourceAddr then [.send r.targetAddr (relayCryptedPacket r.targetSessionId forwarded)]
        else if sender = r.targetAddr then [.send r.sourceAddr (relayCryptedPacket r.sourceSessionId forwarded)]
        else []
      | _ => []
    ⟨s.withSessions (s.sessions.receiveCrypted sessionId sender env.now env.sendFails), effects, .ok⟩
  | _ => ⟨s, [], .panic .indexOutOfRange⟩

/-- `send_packet`: the type byte, then the serialized packet. -/
def sendPacket {α : Type} (codec : Codec α) (target : SocketAddr) (packetType : UInt8) (packet : α) :
    Effect :=
  .send target (packetType :: codec.encode packet)

/-- The part of `_process_hello_packet` after the first request: the HELLO_ACK is built, which
panics when the response does not fit; it is sent again for a session that was there, and for
a new one the transporter is spawned, the response queued on it if it missed the HELLO_ACK,
and the connection handed on. -/
def answerHello (link : Link) (addr : SocketAddr) (theirNodeId : IdType)
    (destSessionId encryptSessionId : UInt16) (dhPublicKey : DhPublicKey) (contactInfo : ContactInfo)
    (ourSessionId : UInt16) (isNew : Bool) (optResponse : Option Bytes) : Run :=
  match newHelloAckPacket P s.privateKey s.ourContactInfo link.maxPacketLength
      (P.crypto.dhPublic env.dhPrivateKey) ourSessionId destSessionId addr optResponse with
  | .error p => ⟨s, [], .panic p⟩
  | .ok (helloAck, responseIncluded) =>
    if !isNew then
      let s := s.withSessions (s.sessions.touch ourSessionId env.now)
      if env.sendFails then ⟨s, [], .err .io⟩ else ⟨s, [.send addr helloAck], .ok⟩
    else
      let transporter : TransporterHandle := ⟨encryptSessionId, ourSessionId, destSessionId,
        s.nodeId, theirNodeId, env.dhPrivateKey, dhPublicKey⟩
      let connection : Connection := ⟨transporter, s.defaultTimeout, addr, theirNodeId, contactInfo,
        destSessionId, encryptSessionId, ourSessionId⟩
      let queued : List Effect := match optResponse with
        | some response => if responseIncluded then [] else [.queue transporter response]
        | none => []
      ⟨s.withSessions (s.sessions.updateDirect ourSessionId fun d => { d with handle := some transporter }),
        .spawn transporter :: queued ++
          (if env.sendFails then [] else [.send addr helloAck, .connected connection]), .ok⟩

/-- `_process_hello_packet`, shared by HELLO and RELAYED_HELLO; `env.dhPrivateKey` is the
key it generates. The `todo` a message processor may return only decides what runs on
the connection afterwards and is left out. -/
def _processHelloPacket (link : Link) (addr : SocketAddr) (destSessionId encryptSessionId : UInt16)
    (publicKey : PublicKey) (dhPublicKey : DhPublicKey) (contactInfo : ContactInfo)
    (optRequest : Option Bytes) : Run :=
  let theirNodeId := P.crypto.generateAddress publicKey
  match s.sessions.newIncommingSession theirNodeId destSessionId encryptSessionId env.channel
      s.defaultTimeout env.now with
  | (.error e, sessions) => ⟨s.withSessions sessions, [], .err e⟩
  | (.ok (ourSessionId, isNew), sessions) =>
    let s := s.withSessions sessions
    let answer := answerHello P s env link addr theirNodeId destSessionId encryptSessionId dhPublicKey
      contactInfo ourSessionId isNew
    match optRequest with
    | none => answer none
    | some firstRequest =>
      match s.messageProcessor firstRequest addr theirNodeId contactInfo with
      | none => ⟨s, if link.connectionBased then [.close addr] else [], .ok⟩
      | some response =>
        answer (some (P.crypto.decrypt encryptSessionId 0 0 response
          (P.crypto.calculateInitialKey env.dhPrivateKey dhPublicKey)))

/-- `process_hello_packet`. The contact info it updates with the sender's address is
never used; the one from the packet is passed on. -/
def processHelloPacket (link : Link) (addr : SocketAddr) (buffer : Bytes) : Run :=
  match parseHelloPacket P buffer with
  | .error e => ⟨s, [], .err e⟩
  | .ok (hello, firstRequest) =>
    _processHelloPacket P s env link addr hello.body.sessionId hello.body.sessionId
      hello.header.nodePublicKey hello.body.dhPublicKey hello.body.contactInfo firstRequest

/-- `process_hello_ack_packet`. The signature is checked over everything after the first 96
bytes, and the hello channel gets the bytes after the packet as the response. -/
def processHelloAckPacket (sender : SocketAddr) (connectionBased : Bool) (buffer : Bytes) : Run :=
  let bodyOffset := 96
  match (HelloAckPacket.codec P.contactInfo).decode buffer with
  | none => ⟨s, [], .err .deserialize⟩
  | some (packet, _) =>
    if sender.isIpv4 != packet.body.linkAddress.isIpv4 then
      ⟨s, [], .panic .debugAssertion⟩
    else
      let responseOffset := (HelloAckPacket.codec P.contactInfo).serializedSize packet
      let ourSessionId := packet.body.sourceSessionId
      match s.sessions.map.lookup ourSessionId with
      | none => ⟨s, [], .err (.invalidSessionId ourSessionId)⟩
      | some session =>
        let theirNodeId := session.theirNodeId.getD (P.crypto.generateAddress packet.header.nodePublicKey)
        match verifyHelloAckPacketRaw P theirNodeId packet.header.nodePublicKey packet.header.signature
            (buffer.drop bodyOffset) with
        | .error e => ⟨s, [], .err e⟩
        | .ok () =>
          let s := { s with
            ourContactInfo := P.updateContactInfo s.ourContactInfo packet.body.linkAddress.toSocketAddr connectionBased }
          match session.transportData with
          | .direct { helloChannel := none, .. } => ⟨s, [], .ok⟩
          | .direct { helloChannel := some tx, relayNodeId := relay, .. } =>
            if relay.isSome then ⟨s, [], .err (.sessionNotForRelaying ourSessionId)⟩
            else
              let response := if responseOffset < buffer.length then some (buffer.drop responseOffset) else none
              ⟨s.withSessions (s.sessions.updateDirect ourSessionId fun d => { d with helloChannel := none }),
                [.hello tx ⟨theirNodeId, packet.body.contactInfo, packet.body.serverSessionId,
                  packet.body.serverSessionId, packet.body.dhPublicKey, response⟩], .ok⟩
          | _ => ⟨s, [], .panic .unexpectedTransportData⟩

/-- `process_relay_hello_ack_packet`: the result of a relayed handshake, for the session
`relay_with_timeout` created. -/
def processRelayHelloAckPacket (buffer : Bytes) : Run :=
  match (RelayHelloAckPacket.codec P.contactInfo).deserialize buffer with
  | none => ⟨s, [], .err .deserialize⟩
  | some packet =>
    let ourSessionId := packet.body.base.sourceSessionId
    match s.sessions.map.lookup ourSessionId with
    | none => ⟨s, [], .err (.invalidSessionId ourSessionId)⟩
    | some session =>
      match session.transportData with
      | .direct { helloChannel := none, .. } => ⟨s, [], .ok⟩
      | .direct { helloChannel := some tx, relayNodeId := relay, .. } =>
        if relay.isSome then ⟨s, [], .err (.sessionNotForRelaying ourSessionId)⟩
        else
          match session.theirNodeId with
          | none => ⟨s, [], .panic .unwrapFailed⟩
          | some theirNodeId =>
            match verifyHelloAckPacket P (HelloAckPacketBody.codec P.contactInfo) theirNodeId
                packet.header.base.nodePublicKey packet.header.base.signature packet.body.base with
            | .error e => ⟨s, [], .err e⟩
            | .ok () =>
              ⟨s, [.hello tx ⟨theirNodeId, packet.body.base.contactInfo, packet.body.base.serverSessionId,
                packet.body.relaySessionId, packet.body.base.dhPublicKey, none⟩], .ok⟩
      | _ => ⟨s, [], .panic .unexpectedTransportData⟩

/-- `process_relayed_hello_packet`: a HELLO the relayer passed on, answered as a HELLO from
the relayer's session. -/
def processRelayedHelloPacket (link : Link) (addr : SocketAddr) (buffer : Bytes) : Run :=
  match (RelayedHelloPacket.codec P.contactInfo).deserialize buffer with
  | none => ⟨s, [], .err .deserialize⟩
  | some packet =>
    match verifyHelloPacket P (HelloPacketBody.codec P.contactInfo) packet.header.base.nodePublicKey
        packet.header.base.signature packet.body with
    | .error e => ⟨s, [], .err e⟩
    | .ok () =>
      _processHelloPacket P s env link addr packet.header.relayerSessionId packet.body.sessionId
        packet.header.base.nodePublicKey packet.body.dhPublicKey packet.body.contactInfo none

/-- `process_relayed_hello_ack_packet` at the relayer: the target's answer is checked
against the relay session, its session id recorded, and the packet sent on to the source
with the type byte `PACKET_TYPE_RELAY_HELLO`. -/
def processRelayedHelloAckPacket (buffer : Bytes) (addr : SocketAddr) : Run :=
  match (RelayedHelloAckPacket.codec P.contactInfo).deserialize buffer with
  | none => ⟨s, [], .err .deserialize⟩
  | some packet =>
    match verifyHelloPacket P (HelloAckPacketBody.codec P.contactInfo) packet.header.nodePublicKey
        packet.header.signature packet.body.base with
    | .error e => ⟨s, [], .err e⟩
    | .ok () =>
      let relayerSessionId := packet.body.relaySessionId
      match s.sessions.map.lookup relayerSessionId with
      | none => ⟨s, [], .err (.invalidSessionId relayerSessionId)⟩
      | some session =>
        let targetSessionId := packet.body.base.serverSessionId
        if session.theirNodeId ≠ some (P.crypto.generateAddress packet.header.nodePublicKey) then
          ⟨s, [], .err .invalidNodeId⟩
        else
          match session.transportData with
          | .relay r =>
            if r.targetAddr ≠ addr then ⟨s, [], .ok⟩
            else if r.sourceSessionId ≠ packet.body.base.sourceSessionId then
              ⟨s, [], .err (.invalidSessionId packet.body.base.sourceSessionId)⟩
            else
              let s := s.withSessions (s.sessions.setTargetSessionId relayerSessionId targetSessionId)
              let relayAckPacket : RelayHelloAckPacket := ⟨⟨relayerSessionId, packet.header⟩, packet.body⟩
              if env.sendFails then ⟨s, [], .err .io⟩
              else ⟨s, [sendPacket (RelayHelloAckPacket.codec P.contactInfo) r.sourceAddr packetTypeRelayHello
                relayAckPacket], .ok⟩
          | _ => ⟨s, [], .panic .unexpectedTransportData⟩

/-- `process_relay_hello_packet` at the relayer: it dials the target, opens a relay session
for the source's node id and session, and passes the HELLO on as a RELAYED_HELLO. The
`hello_sender` the session gets is never read, and the source link only decides whether the
target is dialled over TCP; both are left out. -/
def processRelayHelloPacket (sourceAddr : SocketAddr) (buffer : Bytes) : Run :=
  match (RelayHelloPacket.codec P.contactInfo).deserialize buffer with
  | none => ⟨s, [], .err .deserialize⟩
  | some hello =>
    match verifyHelloPacket P (HelloPacketBody.codec P.contactInfo) hello.header.base.nodePublicKey
        hello.header.base.signature hello.body with
    | .error e => ⟨s, [], .err e⟩
    | .ok () =>
      if env.connectFails then ⟨s, [], .err .io⟩
      else
        let targetAddr := hello.header.target.toSocketAddr
        let targetNodeId := P.crypto.generateAddress hello.header.base.nodePublicKey
        match s.sessions.newRelaySession targetNodeId hello.body.sessionId sourceAddr targetAddr
            P.defaultTimeout env.now with
        | (.error e, sessions) => ⟨s.withSessions sessions, [], .err e⟩
        | (.ok relayerSessionId, sessions) =>
          let relayedHello : RelayedHelloPacket := ⟨⟨relayerSessionId, hello.header.base⟩, hello.body⟩
          let s := s.withSessions sessions
          if env.sendFails then ⟨s, [], .err .io⟩
          else ⟨s, [sendPacket (RelayedHelloPacket.codec P.contactInfo) targetAddr packetTypeRelayedHello
            relayedHello], .ok⟩

/-- `process_packet`: the first byte selects the handler, which gets the rest. `link`
answers to `sender`; its kind is the `is_connection_based()` HELLO_ACK handling reads. -/
def processPacket (link : Link) (sender : SocketAddr) : Bytes → Run
  | [] => ⟨s, [], .panic .indexOutOfRange⟩
  | messageType :: buffer =>
    if messageType = packetTypeHello then processHelloPacket P s env link sender buffer
    else if messageType = packetTypeHelloAck then
      processHelloAckPacket P s sender link.connectionBased buffer
    else if messageType = packetTypeHelloAckAck then ⟨s, [], .ok⟩
    else if messageType = packetTypeCrypted then processCryptedPacket s env buffer sender
    else if messageType = packetTypeRelayHello then processRelayHelloPacket P s env sender buffer
    else if messageType = packetTypeRelayHelloAck then processRelayHelloAckPacket P s buffer
    else if messageType = packetTypeRelayHelloAckAck then ⟨s, [], .ok⟩
    else if messageType = packetTypeRelayedHello then processRelayedHelloPacket P s env link sender buffer
    else if messageType = packetTypeRelayedHelloAck then processRelayedHelloAckPacket P s env buffer sender
    else if messageType = packetTypeRelayedHelloAckAck then ⟨s, [], .ok⟩
    else if messageType = packetTypePunchHole then ⟨s, [], .ok⟩
    else ⟨s, [], .err (.invalidMessageType messageType)⟩

@[simp] theorem withSessions_sessions (sessions : Sessions) : (s.withSessions sessions).sessions = sessions := rfl

/-- A RELAY_HELLO_ACK changes nothing in the server; it only reaches a hello channel. -/
theorem processRelayHelloAckPacket_server (buffer : Bytes) :
    (processRelayHelloAckPacket P s buffer).server = s := by
  unfold processRelayHelloAckPacket
  dsimp only
  repeat' split
  all_goals rfl

/-- What `_process_hello_packet` can do, after `new_incomming_session` has answered for the
peer's address and session: an error ends the call with the table it returned; otherwise
the session is answered, with the processed first request if there is one, or the call
ends without an answer when the message processor has none. -/
theorem _processHelloPacket_cases (link : Link) (addr : SocketAddr) (destSessionId encryptSessionId : UInt16)
    (publicKey : PublicKey) (dhPublicKey : DhPublicKey) (contactInfo : ContactInfo) (optRequest : Option Bytes)
    {run : Run} (ran : _processHelloPacket P s env link addr destSessionId encryptSessionId publicKey dhPublicKey
      contactInfo optRequest = run) :
    (∃ e sessions, s.sessions.newIncommingSession (P.crypto.generateAddress publicKey) destSessionId encryptSessionId
        env.channel s.defaultTimeout env.now = (.error e, sessions) ∧ run = ⟨s.withSessions sessions, [], .err e⟩) ∨
    ∃ ourSessionId isNew sessions, s.sessions.newIncommingSession (P.crypto.generateAddress publicKey) destSessionId
        encryptSessionId env.channel s.defaultTimeout env.now = (.ok (ourSessionId, isNew), sessions) ∧
      ((∃ optResponse, run = answerHello P (s.withSessions sessions) env link addr (P.crypto.generateAddress publicKey)
          destSessionId encryptSessionId dhPublicKey contactInfo ourSessionId isNew optResponse) ∨
        run = ⟨s.withSessions sessions, if link.connectionBased then [.close addr] else [], .ok⟩) := by
  subst ran
  unfold _processHelloPacket
  dsimp only
  rcases s.sessions.newIncommingSession (P.crypto.generateAddress publicKey) destSessionId encryptSessionId
      env.channel s.defaultTimeout env.now with ⟨_ | ⟨ourSessionId, isNew⟩, sessions⟩ <;> dsimp only
  · exact .inl ⟨_, _, rfl, rfl⟩
  refine .inr ⟨ourSessionId, isNew, sessions, rfl, ?_⟩
  cases optRequest with
  | none => exact .inl ⟨none, rfl⟩
  | some firstRequest =>
    dsimp only
    split
    · exact .inr rfl
    · exact .inl ⟨_, rfl⟩

section Table

variable {P s env} (valid : DirectPairsUnique s.sessions)
include valid

theorem processCryptedPacket_unique (buffer : Bytes) (sender : SocketAddr) :
    DirectPairsUnique (processCryptedPacket s env buffer sender).server.sessions := by
  unfold processCryptedPacket
  split
  · exact valid.receiveCrypted _ _ _ _
  · exact valid

theorem answerHello_unique (link : Link) (addr : SocketAddr) (theirNodeId : IdType)
    (destSessionId encryptSessionId : UInt16) (dhPublicKey : DhPublicKey) (contactInfo : ContactInfo)
    (ourSessionId : UInt16) (isNew : Bool) (optResponse : Option Bytes) :
    DirectPairsUnique (answerHello P s env link addr theirNodeId destSessionId encryptSessionId dhPublicKey
      contactInfo ourSessionId isNew optResponse).server.sessions := by
  unfold answerHello
  split
  · exact valid
  · split
    · split <;> exact valid.touch _ _
    · exact valid.updateDirect _ fun _ => rfl

theorem _processHelloPacket_unique (link : Link) (addr : SocketAddr) (destSessionId encryptSessionId : UInt16)
    (publicKey : PublicKey) (dhPublicKey : DhPublicKey) (contactInfo : ContactInfo) (optRequest : Option Bytes) :
    DirectPairsUnique (_processHelloPacket P s env link addr destSessionId encryptSessionId publicKey
      dhPublicKey contactInfo optRequest).server.sessions := by
  have created := valid.newIncommingSession (P.crypto.generateAddress publicKey) destSessionId encryptSessionId
    env.channel s.defaultTimeout env.now
  rcases _processHelloPacket_cases P s env link addr destSessionId encryptSessionId publicKey dhPublicKey contactInfo
      optRequest rfl with ⟨_, _, result, ran⟩ | ⟨_, _, _, result, ⟨_, ran⟩ | ran⟩ <;>
    rw [ran] <;> rw [result] at created
  · exact created
  · exact answerHello_unique created _ _ _ _ _ _ _ _ _ _
  · exact created

theorem processHelloPacket_unique (link : Link) (addr : SocketAddr) (buffer : Bytes) :
    DirectPairsUnique (processHelloPacket P s env link addr buffer).server.sessions := by
  unfold processHelloPacket
  split
  · exact valid
  · exact _processHelloPacket_unique valid _ _ _ _ _ _ _ _

theorem processHelloAckPacket_unique (sender : SocketAddr) (connectionBased : Bool) (buffer : Bytes) :
    DirectPairsUnique (processHelloAckPacket P s sender connectionBased buffer).server.sessions := by
  unfold processHelloAckPacket
  dsimp only
  repeat' split
  all_goals first | exact valid | exact valid.updateDirect _ fun _ => rfl

theorem processRelayedHelloPacket_unique (link : Link) (addr : SocketAddr) (buffer : Bytes) :
    DirectPairsUnique (processRelayedHelloPacket P s env link addr buffer).server.sessions := by
  unfold processRelayedHelloPacket
  repeat' split
  all_goals first | exact valid | exact _processHelloPacket_unique valid _ _ _ _ _ _ _ _

theorem processRelayedHelloAckPacket_unique (buffer : Bytes) (addr : SocketAddr) :
    DirectPairsUnique (processRelayedHelloAckPacket P s env buffer addr).server.sessions := by
  unfold processRelayedHelloAckPacket
  dsimp only
  repeat' split
  all_goals first | exact valid | exact valid.setTargetSessionId _ _

theorem processRelayHelloPacket_unique (sourceAddr : SocketAddr) (buffer : Bytes) :
    DirectPairsUnique (processRelayHelloPacket P s env sourceAddr buffer).server.sessions := by
  unfold processRelayHelloPacket
  split
  · exact valid
  next hello _ =>
  split
  · exact valid
  split
  · exact valid
  dsimp only
  have created := valid.newRelaySession (P.crypto.generateAddress hello.header.base.nodePublicKey)
    hello.body.sessionId sourceAddr hello.header.target.toSocketAddr P.defaultTimeout env.now
  rcases result : s.sessions.newRelaySession (P.crypto.generateAddress hello.header.base.nodePublicKey)
      hello.body.sessionId sourceAddr hello.header.target.toSocketAddr P.defaultTimeout env.now with
    ⟨_ | relayerSessionId, sessions⟩ <;> rw [result] at created <;> dsimp only
  · exact created
  · split <;> exact created

omit valid in
/-- A branch of a dispatch keeps the table when both of its arms do. -/
theorem ite_unique {c : Prop} [Decidable c] {a b : Run} (ha : DirectPairsUnique a.server.sessions)
    (hb : DirectPairsUnique b.server.sessions) : DirectPairsUnique (if c then a else b).server.sessions := by
  split <;> assumption

theorem processPacket_unique (link : Link) (sender : SocketAddr) (packet : Bytes) :
    DirectPairsUnique (processPacket P s env link sender packet).server.sessions := by
  cases packet with
  | nil => exact valid
  | cons messageType buffer =>
    refine ite_unique (processHelloPacket_unique valid _ _ _) <|
      ite_unique (processHelloAckPacket_unique valid _ _ _) <| ite_unique ?_ <|
      ite_unique (processCryptedPacket_unique valid _ _) <| ite_unique (processRelayHelloPacket_unique valid _ _) <|
      ite_unique ((processRelayHelloAckPacket_server P s _).symm ▸ valid) <| ite_unique ?_ <|
      ite_unique (processRelayedHelloPacket_unique valid _ _ _) <|
      ite_unique (processRelayedHelloAckPacket_unique valid _ _) <| ite_unique ?_ <| ite_unique ?_ ?_
    all_goals exact valid

end Table

/-- The server after it handled datagrams one after another, each with what the outside
world answered during its call. -/
def processPackets (s : Server) : List (Env × Link × SocketAddr × Bytes) → Server
  | [] => s
  | (env, link, sender, packet) :: arrivals => processPackets (processPacket P s env link sender packet).server arrivals

/-- No remote input breaks the session table: over every sequence of datagrams, no two
Direct sessions share a peer pair. -/
theorem processPackets_unique {s : Server} (valid : DirectPairsUnique s.sessions)
    (arrivals : List (Env × Link × SocketAddr × Bytes)) :
    DirectPairsUnique (processPackets P s arrivals).sessions := by
  induction arrivals generalizing s with
  | nil => exact valid
  | cons arrival arrivals ih => exact ih (processPacket_unique valid _ _ _)

set_option maxRecDepth 4000 in
/-- A HELLO from a node with key `[5; 32]` for its session 3 opens a Direct session on a
freshly bound server, and the table keeps no two Direct sessions for one peer pair. -/
theorem processPackets_unique_bound :
    let hello := ((newHelloPacket Platform.insecure (.replicate 32 5) ⟨none, none⟩ 1280 (.replicate 32 6) 3
      none).toOption.getD ([], false)).1
    let after := processPackets Platform.insecure (bind ⟨none, none⟩ (.replicate 32 1) (.replicate 32 1) 10)
      [(⟨0, .replicate 32 2, 0, false, false⟩, ⟨false, 1280⟩, .v4 (.replicate 4 7) 7, hello)]
    DirectPairsUnique (bind ⟨none, none⟩ (.replicate 32 1) (.replicate 32 1) 10).sessions ∧
      (after.sessions.map.lookup 0).map SessionData.directPair = some (some (.replicate 32 5, 3)) ∧
      DirectPairsUnique after.sessions := by
  intro hello after
  refine ⟨DirectPairsUnique.new, by decide, processPackets_unique Platform.insecure DirectPairsUnique.new _⟩

/-- What `process_hello_ack_packet` hands a hello channel lies in the bytes its signature
check covered, everything after the 96-byte header: the body it decoded and the response
after it. The key is the one whose address is the peer's node id, which is the session's
expected id when it has one. -/
theorem processHelloAckPacket_signed {sender : SocketAddr} {connectionBased : Bool} {buffer : Bytes}
    {tx : ChannelId} {result : HelloResult}
    (delivered : .hello tx result ∈ (processHelloAckPacket P s sender connectionBased buffer).effects) :
    ∃ header body session,
      buffer = HelloAckPacketHeader.codec.encode header ++
        ((HelloAckPacketBody.codec P.contactInfo).encode body ++ result.response.getD []) ∧
      P.crypto.verify header.nodePublicKey
        ((HelloAckPacketBody.codec P.contactInfo).encode body ++ result.response.getD []) header.signature = true ∧
      P.crypto.generateAddress header.nodePublicKey = result.theirNodeId ∧
      s.sessions.map.lookup body.sourceSessionId = some session ∧
      session.theirNodeId.getD result.theirNodeId = result.theirNodeId ∧
      result = ⟨result.theirNodeId, body.contactInfo, body.serverSessionId, body.serverSessionId,
        body.dhPublicKey, result.response⟩ ∧
      result.response ≠ some [] := by
  unfold processHelloAckPacket at delivered
  rcases decoded : (HelloAckPacket.codec P.contactInfo).decode buffer with _ | ⟨⟨header, body⟩, rest⟩ <;>
    simp only [decoded] at delivered
  · cases delivered
  obtain rfl := (HelloAckPacket.codec P.contactInfo).encode_of_decode decoded
  split at delivered
  · simp at delivered
  rcases found : s.sessions.map.lookup body.sourceSessionId with _ | session <;>
    simp only [found] at delivered
  · cases delivered
  split at delivered
  · cases delivered
  next verified =>
  split at delivered
  · cases delivered
  · split at delivered
    · cases delivered
    · simp only [List.mem_singleton,Effect.hello.injEq] at delivered
      obtain ⟨rfl, rfl⟩ := delivered
      have dropped : (HelloAckPacketHeader.codec.encode header ++
          ((HelloAckPacketBody.codec P.contactInfo).encode body ++ rest)).drop 96 =
          (HelloAckPacketBody.codec P.contactInfo).encode body ++ rest :=
        List.drop_left' (HelloAckPacketHeader.encode_length header)
      simp only [HelloAckPacket.encode_eq,List.append_assoc,dropped,verifyHelloAckPacketRaw_ok] at verified
      simp only [Codec.drop_encode,Codec.length_encode_append]
      simp only [HelloAckPacket.encode_eq,List.append_assoc]
      obtain ⟨named, signed⟩ := verified
      have kept : session.theirNodeId.getD (session.theirNodeId.getD (P.crypto.generateAddress header.nodePublicKey)) =
          session.theirNodeId.getD (P.crypto.generateAddress header.nodePublicKey) := by
        cases session.theirNodeId <;> rfl
      cases rest with
      | nil =>
        rw [List.length_nil,Nat.add_zero,if_neg (Nat.lt_irrefl _)]
        exact ⟨header, body, session, rfl, signed, named, found, kept, rfl, Option.noConfusion⟩
      | cons b bs =>
        rw [if_pos (Nat.lt_add_of_pos_right (List.length_pos.mpr (List.cons_ne_nil b bs)))]
        exact ⟨header, body, session, rfl, signed, named, found, kept, rfl, fun h => List.noConfusion (Option.some.inj h)⟩
  · cases delivered

section Answers

/-- `process_packet` passes a HELLO's bytes after the type byte to `process_hello_packet`. -/
theorem processPacket_hello (link : Link) (sender : SocketAddr) (buffer : Bytes) :
    processPacket P s env link sender (packetTypeHello :: buffer) = processHelloPacket P s env link sender buffer := rfl

theorem processPacket_helloAck (link : Link) (sender : SocketAddr) (buffer : Bytes) :
    processPacket P s env link sender (packetTypeHelloAck :: buffer) =
      processHelloAckPacket P s sender link.connectionBased buffer := rfl

/-- Answering a HELLO changes only the session table. -/
theorem answerHello_tableOnly (link : Link) (addr : SocketAddr) (theirNodeId : IdType)
    (destSessionId encryptSessionId : UInt16) (dhPublicKey : DhPublicKey) (contactInfo : ContactInfo)
    (ourSessionId : UInt16) (isNew : Bool) (optResponse : Option Bytes) :
    ∃ sessions, (answerHello P s env link addr theirNodeId destSessionId encryptSessionId dhPublicKey
      contactInfo ourSessionId isNew optResponse).server = s.withSessions sessions := by
  unfold answerHello
  split
  · exact ⟨s.sessions, rfl⟩
  · split
    · split <;> exact ⟨_, rfl⟩
    · exact ⟨_, rfl⟩

/-- Answering a HELLO keeps every session and its pair. -/
theorem answerHello_keeps (link : Link) (addr : SocketAddr) (theirNodeId : IdType)
    (destSessionId encryptSessionId : UInt16) (dhPublicKey : DhPublicKey) (contactInfo : ContactInfo)
    (ourSessionId : UInt16) (isNew : Bool) (optResponse : Option Bytes) :
    KeepsPairs s.sessions (answerHello P s env link addr theirNodeId destSessionId encryptSessionId dhPublicKey
      contactInfo ourSessionId isNew optResponse).server.sessions := by
  unfold answerHello
  split
  · exact KeepsPairs.refl _
  · split
    · split <;> exact KeepsPairs.touch _ _ _
    · exact KeepsPairs.updateDirect _ _ fun _ => rfl

variable {P s env}

/-- Everything `answer_hello` sends is the HELLO_ACK it built, to the HELLO's sender. -/
theorem answerHello_sends {link : Link} {addr : SocketAddr} {theirNodeId : IdType}
    {destSessionId encryptSessionId : UInt16} {dhPublicKey : DhPublicKey} {contactInfo : ContactInfo}
    {ourSessionId : UInt16} {isNew : Bool} {optResponse : Option Bytes} {target : SocketAddr} {packet : Bytes}
    (sent : .send target packet ∈ (answerHello P s env link addr theirNodeId destSessionId encryptSessionId
      dhPublicKey contactInfo ourSessionId isNew optResponse).effects) :
    target = addr ∧ ∃ included, newHelloAckPacket P s.privateKey s.ourContactInfo link.maxPacketLength
      (P.crypto.dhPublic env.dhPrivateKey) ourSessionId destSessionId addr optResponse = .ok (packet, included) := by
  unfold answerHello at sent
  split at sent
  · cases sent
  · next helloAck included built =>
    rw [built]
    split at sent
    · split at sent <;> simp_all
    · split at sent <;> split at sent <;> simp_all

/-- No answer to a HELLO queues a response on the transporter: every response is on the
HELLO_ACK, or the call panicked before the transporter was spawned. -/
theorem answerHello_never_queues {link : Link} {addr : SocketAddr} {theirNodeId : IdType}
    {destSessionId encryptSessionId : UInt16} {dhPublicKey : DhPublicKey} {contactInfo : ContactInfo}
    {ourSessionId : UInt16} {isNew : Bool} {optResponse : Option Bytes} (transporter : TransporterHandle)
    (queued : Bytes) : .queue transporter queued ∉ (answerHello P s env link addr theirNodeId destSessionId
      encryptSessionId dhPublicKey contactInfo ourSessionId isNew optResponse).effects := by
  unfold answerHello
  split
  · simp
  · next helloAck included built =>
    obtain ⟨-, -, reported⟩ := newHelloAckPacket_ok P built
    split
    · split <;> simp
    · cases optResponse <;> simp_all

variable (P s env)

theorem _processHelloPacket_tableOnly (link : Link) (addr : SocketAddr) (destSessionId encryptSessionId : UInt16)
    (publicKey : PublicKey) (dhPublicKey : DhPublicKey) (contactInfo : ContactInfo) (optRequest : Option Bytes) :
    ∃ sessions, (_processHelloPacket P s env link addr destSessionId encryptSessionId publicKey
      dhPublicKey contactInfo optRequest).server = s.withSessions sessions := by
  rcases _processHelloPacket_cases P s env link addr destSessionId encryptSessionId publicKey dhPublicKey contactInfo
      optRequest rfl with ⟨_, _, -, ran⟩ | ⟨_, _, sessions, -, ⟨_, ran⟩ | ran⟩ <;> rw [ran]
  · exact ⟨_, rfl⟩
  · exact answerHello_tableOnly P (s.withSessions sessions) env _ _ _ _ _ _ _ _ _ _
  · exact ⟨_, rfl⟩

theorem _processHelloPacket_keeps (link : Link) (addr : SocketAddr) (destSessionId encryptSessionId : UInt16)
    (publicKey : PublicKey) (dhPublicKey : DhPublicKey) (contactInfo : ContactInfo) (optRequest : Option Bytes) :
    KeepsPairs s.sessions (_processHelloPacket P s env link addr destSessionId encryptSessionId publicKey
      dhPublicKey contactInfo optRequest).server.sessions := by
  have created := KeepsPairs.newIncommingSession s.sessions (P.crypto.generateAddress publicKey) destSessionId
    encryptSessionId env.channel s.defaultTimeout env.now
  rcases _processHelloPacket_cases P s env link addr destSessionId encryptSessionId publicKey dhPublicKey contactInfo
      optRequest rfl with ⟨_, _, result, ran⟩ | ⟨_, _, sessions, result, ⟨_, ran⟩ | ran⟩ <;>
    rw [ran] <;> rw [result] at created
  · exact created
  · exact created.trans (answerHello_keeps P (s.withSessions sessions) env _ _ _ _ _ _ _ _ _ _)
  · exact created

variable {P s env}

/-- An answer to a HELLO for a session that answers `pair` sends only HELLO_ACKs naming that
session, and the session keeps the pair. -/
theorem answerHello_answers {link : Link} {addr : SocketAddr} {theirNodeId : IdType}
    {destSessionId encryptSessionId : UInt16} {dhPublicKey : DhPublicKey} {contactInfo : ContactInfo}
    {ourSessionId : UInt16} {isNew : Bool} {optResponse : Option Bytes} {target : SocketAddr} {packet : Bytes}
    {pair : IdType × UInt16} (answers : s.sessions.AnswersPair ourSessionId pair)
    (sent : .send target packet ∈ (answerHello P s env link addr theirNodeId destSessionId encryptSessionId
      dhPublicKey contactInfo ourSessionId isNew optResponse).effects) :
    target = addr ∧ (∃ included, newHelloAckPacket P s.privateKey s.ourContactInfo link.maxPacketLength
      (P.crypto.dhPublic env.dhPrivateKey) ourSessionId destSessionId addr optResponse = .ok (packet, included)) ∧
    (answerHello P s env link addr theirNodeId destSessionId encryptSessionId dhPublicKey contactInfo
      ourSessionId isNew optResponse).server.sessions.AnswersPair ourSessionId pair :=
  let ⟨routed, built⟩ := answerHello_sends sent
  ⟨routed, built, KeepsPairs.answersPair (answerHello_keeps _ _ _ _ _ _ _ _ _ _ _ _ _) answers⟩

theorem _processHelloPacket_sends {link : Link} {addr : SocketAddr} {destSessionId encryptSessionId : UInt16}
    {publicKey : PublicKey} {dhPublicKey : DhPublicKey} {contactInfo : ContactInfo} {optRequest : Option Bytes}
    {target : SocketAddr} {packet : Bytes}
    (sent : .send target packet ∈ (_processHelloPacket P s env link addr destSessionId encryptSessionId publicKey
      dhPublicKey contactInfo optRequest).effects) :
    target = addr ∧ ∃ ourSessionId optResponse,
      (∃ included, newHelloAckPacket P s.privateKey s.ourContactInfo link.maxPacketLength
        (P.crypto.dhPublic env.dhPrivateKey) ourSessionId destSessionId addr optResponse = .ok (packet, included)) ∧
      (_processHelloPacket P s env link addr destSessionId encryptSessionId publicKey dhPublicKey contactInfo
        optRequest).server.sessions.AnswersPair ourSessionId (P.crypto.generateAddress publicKey, destSessionId) := by
  rcases _processHelloPacket_cases P s env link addr destSessionId encryptSessionId publicKey dhPublicKey contactInfo
      optRequest rfl with ⟨_, _, -, ran⟩ | ⟨_, _, _, result, ⟨_, ran⟩ | ran⟩ <;> rw [ran] at sent ⊢
  · cases sent
  · obtain ⟨routed, built, kept⟩ := answerHello_answers (Sessions.newIncommingSession_answers result) sent
    exact ⟨routed, _, _, built, kept⟩
  · split at sent <;> simp at sent

variable (P s env)

theorem processHelloPacket_tableOnly (link : Link) (addr : SocketAddr) (buffer : Bytes) :
    ∃ sessions, (processHelloPacket P s env link addr buffer).server = s.withSessions sessions := by
  unfold processHelloPacket
  split
  · exact ⟨s.sessions, rfl⟩
  · exact _processHelloPacket_tableOnly _ _ _ _ _ _ _ _ _ _ _

theorem processHelloPacket_keeps (link : Link) (addr : SocketAddr) (buffer : Bytes) :
    KeepsPairs s.sessions (processHelloPacket P s env link addr buffer).server.sessions := by
  unfold processHelloPacket
  split
  · exact KeepsPairs.refl _
  · exact _processHelloPacket_keeps _ _ _ _ _ _ _ _ _ _ _

variable {P s env}

/-- A HELLO is answered only by HELLO_ACKs to its sender that name the Direct session the
responder then holds for the key and session id of the HELLO. -/
theorem processHelloPacket_sends {link : Link} {addr : SocketAddr} {buffer : Bytes} {target : SocketAddr}
    {packet : Bytes} (sent : .send target packet ∈ (processHelloPacket P s env link addr buffer).effects) :
    target = addr ∧ ∃ hello request ourSessionId optResponse, parseHelloPacket P buffer = .ok (hello, request) ∧
      (∃ included, newHelloAckPacket P s.privateKey s.ourContactInfo link.maxPacketLength
        (P.crypto.dhPublic env.dhPrivateKey) ourSessionId hello.body.sessionId addr optResponse =
          .ok (packet, included)) ∧
      (processHelloPacket P s env link addr buffer).server.sessions.AnswersPair ourSessionId
        (P.crypto.generateAddress hello.header.nodePublicKey, hello.body.sessionId) := by
  unfold processHelloPacket at sent ⊢
  rcases parsed : parseHelloPacket P buffer with _ | ⟨hello, request⟩ <;> rw [parsed] at sent
  · cases sent
  · obtain ⟨routed, ourSessionId, optResponse, built, kept⟩ := _processHelloPacket_sends sent
    exact ⟨routed, hello, request, ourSessionId, optResponse, rfl, built, kept⟩

/-- What reaches a hello channel from a HELLO_ACK the responder composed: the address of the
responder's key as node id, and the responder's session as both session ids. -/
theorem processPacket_newHelloAckPacket {link : Link} {sender : SocketAddr} {privateKey : PrivateKey}
    {ourContactInfo : ContactInfo} {maxLen : Nat} {dhPublicKey : DhPublicKey} {ourSessionId theirSessionId : UInt16}
    {addr : SocketAddr} {response : Option Bytes} {packet : Bytes} {included : Bool} {tx : ChannelId}
    {result : HelloResult} (built : newHelloAckPacket P privateKey ourContactInfo maxLen dhPublicKey ourSessionId
      theirSessionId addr response = .ok (packet, included))
    (delivered : .hello tx result ∈ (processPacket P s env link sender packet).effects) :
    result.theirNodeId = P.crypto.generateAddress (P.crypto.public privateKey) ∧
      result.encryptSessionId = ourSessionId ∧ result.destSessionId = ourSessionId := by
  obtain ⟨rfl, -, -⟩ := newHelloAckPacket_ok P built
  rw [processPacket_helloAck] at delivered
  obtain ⟨header, body, -, framed, -, named, -, -, shape, -⟩ := processHelloAckPacket_signed _ _ delivered
  obtain ⟨rfl, rest⟩ := Codec.encode_append_inj framed
  obtain ⟨rfl, -⟩ := Codec.encode_append_inj rest
  rw [shape]
  exact ⟨named.symm, rfl, rfl⟩

end Answers

/-- A first response that does not fit the HELLO_ACK never goes through the transporter
fallback of `_process_hello_packet`: `new_hello_ack_packet` puts every response on the packet
and panics at its `debug_assert!(packet_len <= max_len)` when it does not fit. The responder's
task panics on such a response, with the session already created, and no call ever queues
a response on a transporter. -/
theorem _processHelloPacket_oversize_panics (link : Link) (addr : SocketAddr)
    (destSessionId encryptSessionId : UInt16) (publicKey : PublicKey) (dhPublicKey : DhPublicKey)
    (contactInfo : ContactInfo) (firstRequest response : Bytes) {ourSessionId : UInt16} {isNew : Bool}
    {sessions : Sessions}
    (created : s.sessions.newIncommingSession (P.crypto.generateAddress publicKey) destSessionId encryptSessionId
      env.channel s.defaultTimeout env.now = (.ok (ourSessionId, isNew), sessions))
    (processed : s.messageProcessor firstRequest addr (P.crypto.generateAddress publicKey) contactInfo = some response)
    (tooLong : link.maxPacketLength < 1 + 96 + (HelloAckPacketBody.codec P.contactInfo).serializedSize
      ⟨P.crypto.dhPublic env.dhPrivateKey, destSessionId, ourSessionId, s.ourContactInfo, .ofSocketAddr addr⟩ +
        response.length) :
    _processHelloPacket P s env link addr destSessionId encryptSessionId publicKey dhPublicKey contactInfo
        (some firstRequest) = ⟨s.withSessions sessions, [], .panic .debugAssertion⟩ ∧
    ∀ optRequest transporter queued, .queue transporter queued ∉ (_processHelloPacket P s env link addr
      destSessionId encryptSessionId publicKey dhPublicKey contactInfo optRequest).effects := by
  refine ⟨?_, fun optRequest transporter queued => ?_⟩
  · have sized := P.crypto.encrypt_length encryptSessionId 0 0 response
      (P.crypto.calculateInitialKey env.dhPrivateKey dhPublicKey)
    have answered : (s.withSessions sessions).messageProcessor firstRequest addr (P.crypto.generateAddress publicKey)
        contactInfo = some response := processed
    unfold _processHelloPacket
    simp only [created,answered]
    unfold answerHello
    rw [newHelloAckPacket_tooLong P _ _ _ _ _ _ _ _ (by rw [Crypto.decrypt,sized]; exact tooLong)]
  · rcases _processHelloPacket_cases P s env link addr destSessionId encryptSessionId publicKey dhPublicKey
        contactInfo optRequest rfl with ⟨_, _, -, ran⟩ | ⟨_, _, _, -, ⟨_, ran⟩ | ran⟩ <;> rw [ran]
    · simp
    · exact answerHello_never_queues transporter queued
    · split <;> simp

theorem _processHelloPacket_oversize_panics_one :
    let s := (bind ⟨none, none⟩ (.replicate 32 3) (.replicate 32 3) 10).setMessageProcessor fun _ _ _ _ => some [1]
    ∃ sessions, s.sessions.newIncommingSession (.replicate 32 1) 0 0 2 10 0 = (.ok (0, true), sessions) ∧
      _processHelloPacket Platform.insecure s ⟨0, .replicate 32 2, 2, false, false⟩ ⟨false, 100⟩
          (.v4 (.replicate 4 7) 7) 0 0 (.replicate 32 1) (.replicate 32 4) ⟨none, none⟩ (some [7]) =
        ⟨s.withSessions sessions, [], .panic .debugAssertion⟩ := by
  intro s
  obtain ⟨sessions, created⟩ : ∃ sessions,
      s.sessions.newIncommingSession (.replicate 32 1) 0 0 2 10 0 = (.ok (0, true), sessions) := ⟨_, rfl⟩
  exact ⟨sessions, created, (_processHelloPacket_oversize_panics Platform.insecure s
    ⟨0, .replicate 32 2, 2, false, false⟩ ⟨false, 100⟩ (.v4 (.replicate 4 7) 7) 0 0 (.replicate 32 1)
    (.replicate 32 4) ⟨none, none⟩ [7] [1] created rfl (by decide)).1⟩

/-- `process_relay_hello_ack_packet` turns away the sessions that are for relaying and takes
those of `connect_with_timeout`. A RELAY_HELLO_ACK naming one of them is accepted on a
signature over the HELLO_ACK body alone, and the `relay_session_id` next to that body,
which no signature covers, reaches the hello channel as the dest session id. -/
theorem processPacket_relayHelloAck_unsigned (link : Link) (sender : SocketAddr)
    {session : SessionData} {d : SessionTransportDataDirect} {tx : ChannelId} {theirNodeId : IdType}
    (header : RelayHelloAckPacketHeader) (base : HelloAckPacketBody) (relaySessionId : UInt16)
    (found : s.sessions.map.lookup base.sourceSessionId = some session)
    (pending : session.transportData = .direct d) (waiting : d.helloChannel = some tx)
    (outgoing : d.relayNodeId = none) (expected : session.theirNodeId = some theirNodeId)
    (signed : verifyHelloAckPacket P (HelloAckPacketBody.codec P.contactInfo) theirNodeId
      header.base.nodePublicKey header.base.signature base = .ok ()) :
    processPacket P s env link sender (packetTypeRelayHelloAck ::
        (RelayHelloAckPacket.codec P.contactInfo).encode ⟨header, ⟨relaySessionId, base⟩⟩) =
      ⟨s, [.hello tx ⟨theirNodeId, base.contactInfo, base.serverSessionId, relaySessionId,
        base.dhPublicKey, none⟩], .ok⟩ := by
  rcases d with ⟨_, _, helloChannel, relay, _, _⟩
  simp only at waiting outgoing
  subst waiting outgoing
  simp only [processPacket,processRelayHelloAckPacket,Codec.deserialize_encode,found,pending,expected,signed]
  rfl

/-- A node connecting to `X = [5; 32]` under session 0 gets the dest session id 4242 from a
RELAY_HELLO_ACK whose signed part is `X`'s HELLO_ACK body. -/
theorem processPacket_relayHelloAck_unsigned_connecting :
    let s := (bind ⟨none, none⟩ (.replicate 32 1) (.replicate 32 1) 10).withSessions
      (Sessions.new.insert 0 (.new (some (.replicate 32 5)) (outgoingData none 0 1) 10 0))
    let base : HelloAckPacketBody := ⟨.replicate 32 6, 0, 9, ⟨none, none⟩, .v4 ⟨.replicate 4 0, 0⟩⟩
    processPacket Platform.insecure s ⟨0, .replicate 32 2, 2, false, false⟩ ⟨false, 1280⟩
        (.v4 (.replicate 4 0) 0) (packetTypeRelayHelloAck :: (RelayHelloAckPacket.codec ContactInfo.codec).encode
          ⟨⟨3, ⟨.replicate 32 5, .replicate 64 5⟩⟩, ⟨4242, base⟩⟩) =
      ⟨s, [.hello 0 ⟨.replicate 32 5, ⟨none, none⟩, 9, 4242, .replicate 32 6, none⟩], .ok⟩ :=
  processPacket_relayHelloAck_unsigned _ _ _ _ _ _ _ 4242 rfl rfl rfl rfl rfl rfl

/-- `packet[0]` panics on an empty datagram, and the `array_ref!`s of
`process_crypted_packet` on a CRYPTED packet shorter than seven bytes, whatever the
server's state. -/
theorem processPacket_short_panics (link : Link) (sender : SocketAddr) (buffer : Bytes)
    (short : buffer.length < 6) :
    (processPacket P s env link sender []).outcome = .panic .indexOutOfRange ∧
    (processPacket P s env link sender (packetTypeCrypted :: buffer)).outcome = .panic .indexOutOfRange := by
  refine ⟨rfl, ?_⟩
  match buffer, short with
  | [], _ | [_], _ | [_, _], _ | [_, _, _], _ | [_, _, _, _], _ | [_, _, _, _, _], _ => rfl

theorem processPacket_short_panics_empty_crypted :
    ([] : Bytes).length < 6 ∧
    (processPacket Platform.insecure (bind ⟨none, none⟩ (.replicate 32 1) (.replicate 32 1) 10)
        ⟨0, .replicate 32 2, 0, false, false⟩ ⟨false, 1280⟩ (.v4 (.replicate 4 0) 0) []).outcome =
      .panic .indexOutOfRange ∧
    (processPacket Platform.insecure (bind ⟨none, none⟩ (.replicate 32 1) (.replicate 32 1) 10)
        ⟨0, .replicate 32 2, 0, false, false⟩ ⟨false, 1280⟩ (.v4 (.replicate 4 0) 0) [packetTypeCrypted]).outcome =
      .panic .indexOutOfRange :=
  ⟨by decide, processPacket_short_panics _ _ _ _ _ [] (by decide)⟩

end Server

end StoneNet
