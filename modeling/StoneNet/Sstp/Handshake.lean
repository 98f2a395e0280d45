import StoneNet.Sstp.Server

/-! `connect_with_timeout` and the direct handshake it runs with a responder. The initiator
resends its HELLO every round until its hello channel yields a result; a datagram, once
sent, stays in flight, and a schedule picks which one a party handles next, so dropped,
duplicated and reordered packets are all schedules. -/
namespace StoneNet

/-- `DEFAULT_KEEP_ALIVE_IDLE_TIME`, two minutes. -/
def defaultKeepAliveIdleTime : Nat := 120

/-- `connect_with_timeout` once its session exists: the HELLO it resends and what it needs
to finish when the hello channel answers. -/
structure Connecting where
  target : SocketAddr
  nodeId : Option IdType
  localSessionId : UInt16
  dhPrivateKey : DhPrivateKey
  helloPacket : Bytes
  helloRequestIncluded : Bool
  helloChannel : ChannelId
  deriving DecidableEq

/-- How `connect_with_timeout` ends. -/
inductive Connect where
  | connected (connection : Connection) (response : Option Bytes)
  | failed (e : Error)
  | panicked (p : Panic)
  deriving DecidableEq

namespace Server

variable (P : Platform) (s : Server) (env : Env)

/-- `connect_with_timeout` up to its loop: the link is dialled, the session created with
hello and packet channels numbered by the caller, and the HELLO composed once. It ends early
with what `connect_with_timeout` then gives: an error, or the panic of `new_hello_packet`, after
which the session stays in the table. -/
def connectStart (link : Link) (target : SocketAddr) (nodeId : Option IdType) (request : Option Bytes)
    (timeout : Nat) (helloChannel packetProcessor : ChannelId) : Server × Except Connect Connecting :=
  if env.connectFails then (s, .error (.failed .io))
  else
    match s.sessions.newOutgoingSession nodeId (outgoingData none helloChannel packetProcessor) timeout env.now with
    | (none, sessions) => (s.withSessions sessions, .error (.failed .outOfSessions))
    | (some localSessionId, sessions) =>
      match newHelloPacket P s.privateKey s.ourContactInfo link.maxPacketLength env.dhPrivateKey localSessionId
          request with
      | .error p => (s.withSessions sessions, .error (.panicked p))
      | .ok (helloPacket, included) =>
        (s.withSessions sessions,
          .ok ⟨target, nodeId, localSessionId, env.dhPrivateKey, helloPacket, included, helloChannel⟩)

/-- The arm of `connect_with_timeout` that takes a result from the hello channel: the
response is decrypted with the initial key, the node id checked against the expected one,
and the transporter spawned and installed in the session. -/
def connectReceive (c : Connecting) (result : HelloResult) : Server × Connect :=
  if !(result.response.isNone || c.helloRequestIncluded) then
    (s, .panicked .debugAssertion)
  else
    let response := result.response.map fun buffer =>
      P.crypto.decrypt c.localSessionId 0 0 buffer (P.crypto.calculateInitialKey c.dhPrivateKey result.dhPublicKey)
    if c.nodeId.any (· ≠ result.theirNodeId) then (s, .failed .invalidNodeId)
    else
      let transporter : TransporterHandle := ⟨result.encryptSessionId, c.localSessionId,
        result.destSessionId, s.nodeId, result.theirNodeId, c.dhPrivateKey, result.dhPublicKey⟩
      (s.withSessions (s.sessions.updateDirect c.localSessionId fun d => { d with handle := some transporter }),
        .connected ⟨transporter, defaultKeepAliveIdleTime, c.target, result.theirNodeId, result.contactInfo,
          result.destSessionId, result.encryptSessionId, c.localSessionId⟩ response)

/-- The HELLO `connect_with_timeout` resends is composed once, with the server's key and
contact info, the link's limit, and the key and session of the attempt. -/
theorem connectStart_composes {link : Link} {target : SocketAddr} {nodeId : Option IdType} {request : Option Bytes}
    {timeout : Nat} {helloChannel packetProcessor : ChannelId} {a : Server} {c : Connecting}
    (started : s.connectStart P env link target nodeId request timeout helloChannel packetProcessor = (a, .ok c)) :
    newHelloPacket P s.privateKey s.ourContactInfo link.maxPacketLength c.dhPrivateKey c.localSessionId request =
      .ok (c.helloPacket, c.helloRequestIncluded) := by
  unfold connectStart at started
  split at started
  · cases started
  split at started
  · cases started
  split at started
  · cases started
  · next built =>
    simp only [Prod.mk.injEq,Except.ok.injEq] at started
    obtain ⟨-, rfl⟩ := started
    exact built

/-- A connection takes its peer and session ids from the hello result. -/
theorem connectReceive_connected {c : Connecting} {result : HelloResult} {connection : Connection}
    {response : Option Bytes} (connected : (s.connectReceive P c result).2 = .connected connection response) :
    connection.peerNodeId = result.theirNodeId ∧ connection.destSessionId = result.destSessionId ∧
      connection.encryptSessionId = result.encryptSessionId ∧ connection.localSessionId = c.localSessionId := by
  unfold connectReceive at connected
  split at connected
  · cases connected
  split at connected
  · cases connected
  · simp only [Connect.connected.injEq] at connected
    obtain ⟨rfl, -⟩ := connected
    exact ⟨rfl, rfl, rfl, rfl⟩

end Server

/-- The datagrams of `effects` that go to `target`. -/
def sentTo (target : SocketAddr) : List Effect → List Bytes
  | [] => []
  | .send receiver packet :: effects =>
    if receiver = target then packet :: sentTo target effects else sentTo target effects
  | _ :: effects => sentTo target effects

theorem mem_sentTo {target : SocketAddr} {packet : Bytes} {effects : List Effect} :
    packet ∈ sentTo target effects ↔ .send target packet ∈ effects := by
  induction effects with
  | nil => simp [sentTo]
  | cons effect effects ih =>
    cases effect with
    | send receiver sent =>
      by_cases here : receiver = target
      · subst here; simp [sentTo,ih]
      · simp [sentTo,here,Ne.symm here,ih]
    | _ => simp [sentTo,ih]

/-- The results of `effects` on hello channel `channel`. -/
def helloResults (channel : ChannelId) : List Effect → List HelloResult
  | [] => []
  | .hello c result :: effects => if c = channel then result :: helloResults channel effects else helloResults channel effects
  | _ :: effects => helloResults channel effects

theorem mem_helloResults {channel : ChannelId} {result : HelloResult} {effects : List Effect} :
    result ∈ helloResults channel effects ↔ .hello channel result ∈ effects := by
  induction effects with
  | nil => simp [helloResults]
  | cons effect effects ih =>
    cases effect with
    | hello c delivered =>
      by_cases here : c = channel
      · subst here; simp [helloResults,ih]
      · simp [helloResults,here,Ne.symm here,ih]
    | _ => simp [helloResults,ih]

/-- A HELLO this node composes reaches `process_hello_packet` with the composer's key in its
header and the composer's session in its body. -/
theorem newHelloPacket_hello (P : Platform) {privateKey : PrivateKey} {ourContactInfo : ContactInfo} {maxLen : Nat}
    {dhPrivateKey : DhPrivateKey} {sessionId : UInt16} {request : Option Bytes} {packet : Bytes} {included : Bool}
    (built : newHelloPacket P privateKey ourContactInfo maxLen dhPrivateKey sessionId request = .ok (packet, included)) :
    ∃ buffer hello request', packet = packetTypeHello :: buffer ∧ parseHelloPacket P buffer = .ok (hello, request') ∧
      hello.header.nodePublicKey = P.crypto.public privateKey ∧ hello.body.sessionId = sessionId := by
  obtain ⟨rfl, -, parsed⟩ := newHelloPacket_ok P built
  exact ⟨_, _, _, rfl, parsed, rfl, rfl⟩

/-- An initiator `a` inside `connect_with_timeout` and a responder `b`, with every datagram
sent between them so far and what `a`'s hello channel holds. -/
structure Handshake where
  a : Server
  b : Server
  connecting : Connecting
  toB : List Bytes
  toA : List Bytes
  inbox : List HelloResult

/-- A scheduling choice: `a` resends its HELLO, or one party handles the datagram in flight to
it at `index`, with what the outside world answers during that call. -/
inductive Action where
  | resend
  | atB (index : Nat) (env : Env)
  | atA (index : Nat) (env : Env)
  deriving DecidableEq

namespace Handshake

variable (P : Platform) (addrA : SocketAddr) (linkA linkB : Link)

/-- One scheduled action. `b` sees `a` at `addrA` over `linkB`; `a` sees `b` at the target
it dialled, over `linkA`. -/
def step (w : Handshake) : Action → Handshake
  | .resend => { w with toB := w.toB ++ [w.connecting.helloPacket] }
  | .atB index env =>
    match w.toB[index]? with
    | some packet =>
      let run := Server.processPacket P w.b env linkB addrA packet
      { w with b := run.server, toA := w.toA ++ sentTo addrA run.effects }
    | none => w
  | .atA index env =>
    match w.toA[index]? with
    | some packet =>
      let run := Server.processPacket P w.a env linkA w.connecting.target packet
      { w with a := run.server, inbox := w.inbox ++ helloResults w.connecting.helloChannel run.effects }
    | none => w

def execute (w : Handshake) (schedule : List Action) : Handshake := schedule.foldl (step P addrA linkA linkB) w

/-- The connection `connect_with_timeout` returns once a result is in its hello channel. -/
def finish (w : Handshake) : Option Connect :=
  w.inbox.head?.map fun result => (w.a.connectReceive P w.connecting result).2

variable (keyA keyB : PrivateKey)

/-- What holds of the handshake world after every schedule. The responder, whose key is
`keyB`, receives only the initiator's HELLO, signed with `keyA`; every HELLO_ACK in flight to
the initiator, and every result in its hello channel, names a session the responder holds
as the Direct one for the initiator's key and session; a result also names the responder by
its key's address and carries that session as both encrypt and dest id. -/
structure Agreement (w : Handshake) : Prop where
  composed : ∃ contactInfo maxLen request included,
    newHelloPacket P keyA contactInfo maxLen w.connecting.dhPrivateKey w.connecting.localSessionId request =
      .ok (w.connecting.helloPacket, included)
  responderKey : w.b.privateKey = keyB
  unique : DirectPairsUnique w.b.sessions
  hellos : ∀ packet ∈ w.toB, packet = w.connecting.helloPacket
  acks : ∀ packet ∈ w.toA, ∃ dhPublicKey ourSessionId response included,
    newHelloAckPacket P keyB w.b.ourContactInfo linkB.maxPacketLength dhPublicKey ourSessionId
      w.connecting.localSessionId addrA response = .ok (packet, included) ∧
    w.b.sessions.AnswersPair ourSessionId (P.crypto.generateAddress (P.crypto.public keyA), w.connecting.localSessionId)
  results : ∀ result ∈ w.inbox, result.theirNodeId = P.crypto.generateAddress (P.crypto.public keyB) ∧
    result.encryptSessionId = result.destSessionId ∧
    w.b.sessions.AnswersPair result.destSessionId
      (P.crypto.generateAddress (P.crypto.public keyA), w.connecting.localSessionId)

namespace Agreement

variable {P addrA linkA linkB keyA keyB}

/-- The world `connect_with_timeout` starts from: nothing sent yet. -/
theorem start {a b : Server} {c : Connecting} {contactInfo : ContactInfo} {maxLen : Nat} {request : Option Bytes}
    {included : Bool} (composed : newHelloPacket P keyA contactInfo maxLen c.dhPrivateKey c.localSessionId request =
      .ok (c.helloPacket, included))
    (valid : DirectPairsUnique b.sessions) :
    Agreement P addrA linkB keyA b.privateKey ⟨a, b, c, [], [], []⟩ :=
  ⟨⟨contactInfo, maxLen, request, included, composed⟩, rfl, valid, fun _ absent => (nomatch absent),
    fun _ absent => (nomatch absent), fun _ absent => (nomatch absent)⟩

/-- The responder handling a datagram in flight to it keeps the agreement. -/
theorem atB {w : Handshake} (inv : Agreement P addrA linkB keyA keyB w) (index : Nat) (env : Env) :
    Agreement P addrA linkB keyA keyB (w.step P addrA linkA linkB (.atB index env)) := by
  dsimp only [step]
  split
  · next packet found =>
    obtain ⟨_, _, _, _, composed⟩ := inv.composed
    obtain ⟨buffer, hello, request', shape, parsed, key, session⟩ := newHelloPacket_hello P composed
    obtain rfl : packet = packetTypeHello :: buffer := (inv.hellos packet (List.getElem?_mem found)).trans shape
    obtain ⟨sessions, framed⟩ := Server.processHelloPacket_tableOnly P w.b env linkB addrA buffer
    have keeps := Server.processHelloPacket_keeps P w.b env linkB addrA buffer
    simp only [Server.processPacket_hello,framed] at keeps ⊢
    refine ⟨inv.composed, inv.responderKey, ?_, inv.hellos, ?_, ?_⟩
    · exact framed ▸ Server.processHelloPacket_unique inv.unique linkB addrA buffer
    · intro packet sent
      rcases List.mem_append.mp sent with old | new
      · obtain ⟨dhPublicKey, ourSessionId, response, included, built, answers⟩ := inv.acks packet old
        exact ⟨dhPublicKey, ourSessionId, response, included, built, keeps.answersPair answers⟩
      · obtain ⟨-, hello', request'', ourSessionId, response, parsed', ⟨included, built⟩, answers⟩ :=
          Server.processHelloPacket_sends (mem_sentTo.mp new)
        obtain ⟨rfl, -⟩ := Prod.mk.inj (Except.ok.inj (parsed'.symm.trans parsed))
        rw [framed,key,session] at answers
        rw [session,inv.responderKey] at built
        exact ⟨_, ourSessionId, response, included, built, answers⟩
    · intro result received
      obtain ⟨named, same, answers⟩ := inv.results result received
      exact ⟨named, same, keeps.answersPair answers⟩
  · exact inv

/-- The initiator handling a HELLO_ACK in flight to it keeps the agreement. -/
theorem atA {w : Handshake} (inv : Agreement P addrA linkB keyA keyB w) (index : Nat) (env : Env) :
    Agreement P addrA linkB keyA keyB (w.step P addrA linkA linkB (.atA index env)) := by
  dsimp only [step]
  split
  · next packet found =>
    obtain ⟨dhPublicKey, ourSessionId, response, included, built, answers⟩ := inv.acks packet (List.getElem?_mem found)
    refine ⟨inv.composed, inv.responderKey, inv.unique, inv.hellos, inv.acks, fun result received => ?_⟩
    rcases List.mem_append.mp received with old | new
    · exact inv.results result old
    · obtain ⟨named, encrypt, dest⟩ := Server.processPacket_newHelloAckPacket built (mem_helloResults.mp new)
      exact ⟨named, encrypt.trans dest.symm, dest ▸ answers⟩
  · exact inv

/-- Every scheduled action keeps the agreement. -/
theorem step {w : Handshake} (inv : Agreement P addrA linkB keyA keyB w) :
    ∀ action, Agreement P addrA linkB keyA keyB (w.step P addrA linkA linkB action)
  | .resend => ⟨inv.composed, inv.responderKey, inv.unique,
      fun packet sent => (List.mem_append.mp sent).elim (inv.hellos packet) List.eq_of_mem_singleton, inv.acks,
      inv.results⟩
  | .atB index env => inv.atB index env
  | .atA index env => inv.atA index env

/-- So does every schedule. -/
theorem execute {w : Handshake} (inv : Agreement P addrA linkB keyA keyB w) (schedule : List Action) :
    Agreement P addrA linkB keyA keyB (w.execute P addrA linkA linkB schedule) := by
  induction schedule generalizing w with
  | nil => exact inv
  | cons action schedule ih => exact ih (inv.step action)

end Agreement

end Handshake

/-- Over every schedule of resends, losses, duplicates and reorderings, a connection
`connect_with_timeout` returns names the responder by the address of the responder's key
and carries one session id as both its dest and encrypt id, and that session is the only
Direct session the responder holds for the initiator's key and local session. -/
theorem handshake_sessions_agree (P : Platform) (s b : Server) (env : Env) (linkA linkB : Link)
    (target addrA : SocketAddr) (nodeId : Option IdType) (request : Option Bytes) (timeout : Nat)
    (helloChannel packetProcessor : ChannelId) (valid : DirectPairsUnique b.sessions) (a : Server) (c : Connecting)
    (started : s.connectStart P env linkA target nodeId request timeout helloChannel packetProcessor = (a, .ok c))
    (schedule : List Action) (connection : Connection) (response : Option Bytes)
    (connected : (Handshake.execute P addrA linkA linkB ⟨a, b, c, [], [], []⟩ schedule).finish P =
      some (.connected connection response)) :
    let w := Handshake.execute P addrA linkA linkB ⟨a, b, c, [], [], []⟩ schedule
    connection.peerNodeId = P.crypto.generateAddress (P.crypto.public b.privateKey) ∧
    connection.encryptSessionId = connection.destSessionId ∧
    ∀ k, w.b.sessions.AnswersPair k (P.crypto.generateAddress (P.crypto.public s.privateKey),
      connection.localSessionId) ↔ k = connection.destSessionId := by
  intro w
  have inv : Handshake.Agreement P addrA linkB s.privateKey b.privateKey w :=
    (Handshake.Agreement.start (Server.connectStart_composes P s env started) valid).execute schedule
  obtain ⟨result, first, received⟩ := Option.map_eq_some'.mp connected
  obtain ⟨named, encrypt, dest, «local»⟩ := Server.connectReceive_connected P _ received
  obtain ⟨theirs, same, answers⟩ := inv.results result (List.mem_of_mem_head? first)
  rw [named,encrypt,dest,«local»]
  exact ⟨theirs, same, fun k => ⟨fun other => inv.unique.answersPair_eq other answers, fun here => here ▸ answers⟩⟩

set_option maxRecDepth 4000 in
theorem handshake_sessions_agree_direct :
    ∃ a c, (Server.bind ⟨none, none⟩ (.replicate 32 1) (.replicate 32 1) 10).connectStart Platform.insecure
        ⟨0, .replicate 32 2, 0, false, false⟩ ⟨false, 1280⟩ (.v4 (.replicate 4 9) 9) (some (.replicate 32 3))
        none 10 0 1 = (a, .ok c) ∧
      ∃ connection response, (Handshake.execute Platform.insecure (.v4 (.replicate 4 7) 7) ⟨false, 1280⟩ ⟨false, 1280⟩
        ⟨a, Server.bind ⟨none, none⟩ (.replicate 32 3) (.replicate 32 3) 10, c, [], [], []⟩
        [.resend, .atB 0 ⟨1, .replicate 32 4, 5, false, false⟩, .atA 0 ⟨3, .replicate 32 0, 7, false, false⟩]).finish
          Platform.insecure = some (.connected connection response) ∧
        connection.encryptSessionId = connection.destSessionId := by
  refine ⟨_, _, rfl, ?_⟩
  refine ⟨_, _, rfl, ?_⟩
  exact (handshake_sessions_agree Platform.insecure (Server.bind ⟨none, none⟩ (.replicate 32 1) (.replicate 32 1) 10)
    (Server.bind ⟨none, none⟩ (.replicate 32 3) (.replicate 32 3) 10) ⟨0, .replicate 32 2, 0, false, false⟩
    ⟨false, 1280⟩ ⟨false, 1280⟩ (.v4 (.replicate 4 9) 9) (.v4 (.replicate 4 7) 7) (some (.replicate 32 3)) none 10 0 1
    DirectPairsUnique.new _ _ (by rfl) [.resend, .atB 0 ⟨1, .replicate 32 4, 5, false, false⟩,
      .atA 0 ⟨3, .replicate 32 0, 7, false, false⟩] _ _ (by rfl)).2.1

set_option maxRecDepth 4000 in
/-- A resent HELLO makes the responder build a second HELLO_ACK with a fresh Diffie-Hellman
key, while the transporter it spawned for the session keeps the first. When that second
HELLO_ACK is the first to reach the initiator, both ends hold a connection, but the
initiator's transporter pairs with a key the responder never uses, and the two derive
different initial keys. -/
theorem handshake_resent_hello_ack_key_mismatch :
    ∃ a c, (Server.bind ⟨none, none⟩ (.replicate 32 1) (.replicate 32 1) 10).connectStart Platform.insecure
        ⟨0, .replicate 32 2, 0, false, false⟩ ⟨false, 1280⟩ (.v4 (.replicate 4 9) 9) (some (.replicate 32 3))
        none 10 0 1 = (a, .ok c) ∧
      let w := Handshake.execute Platform.insecure (.v4 (.replicate 4 7) 7) ⟨false, 1280⟩ ⟨false, 1280⟩
        ⟨a, Server.bind ⟨none, none⟩ (.replicate 32 3) (.replicate 32 3) 10, c, [], [], []⟩
        [.resend, .atB 0 ⟨1, .replicate 32 4, 5, false, false⟩, .resend,
          .atB 1 ⟨2, .replicate 32 8, 6, false, false⟩, .atA 1 ⟨3, .replicate 32 0, 7, false, false⟩]
      ∃ connection data d transporter, w.finish Platform.insecure = some (.connected connection none) ∧
        w.b.sessions.map.lookup 0 = some data ∧ data.transportData = .direct d ∧ d.handle = some transporter ∧
        Platform.insecure.crypto.dhPublic transporter.dhPrivateKey ≠ connection.transporter.theirPublicKey ∧
        Platform.insecure.crypto.calculateInitialKey transporter.dhPrivateKey transporter.theirPublicKey ≠
          Platform.insecure.crypto.calculateInitialKey connection.transporter.dhPrivateKey
            connection.transporter.theirPublicKey := by
  refine ⟨_, _, rfl, ?_⟩
  refine ⟨_, _, _, _, rfl, rfl, rfl, rfl, by decide, by decide⟩

end StoneNet
