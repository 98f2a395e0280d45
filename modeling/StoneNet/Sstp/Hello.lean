import StoneNet.Sstp.Packet

/-! Handshake framing of `server.rs`: the HELLO, HELLO_ACK and RELAY_HELLO composers and
the HELLO parser. A packet is its type byte, a 96-byte header (public key and signature),
the body, and piggybacked bytes if any; the signature covers the body and those bytes. -/
namespace StoneNet

def packetTypeHello : UInt8 := 0
def packetTypeHelloAck : UInt8 := 1
def packetTypeHelloAckAck : UInt8 := 2
def packetTypeCrypted : UInt8 := 3
def packetTypePunchHole : UInt8 := 4
def packetTypeRelayHello : UInt8 := 5
def packetTypeRelayHelloAck : UInt8 := 6
def packetTypeRelayHelloAckAck : UInt8 := 7
def packetTypeRelayedHello : UInt8 := 8
def packetTypeRelayedHelloAck : UInt8 := 9
def packetTypeRelayedHelloAckAck : UInt8 := 10

@[simp] theorem HelloPacketHeader.encode_eq (h : HelloPacketHeader) :
    HelloPacketHeader.codec.encode h = h.nodePublicKey.bytes ++ h.signature.bytes := rfl

@[simp] theorem HelloAckPacketHeader.encode_eq (h : HelloAckPacketHeader) :
    HelloAckPacketHeader.codec.encode h = h.nodePublicKey.bytes ++ h.signature.bytes := rfl

@[simp] theorem HelloPacketHeader.encode_length (h : HelloPacketHeader) :
    (HelloPacketHeader.codec.encode h).length = 96 := by
  simp [h.nodePublicKey.length_eq,h.signature.length_eq]

@[simp] theorem HelloAckPacket.encode_eq (ci : Codec ContactInfo) (p : HelloAckPacket) :
    (HelloAckPacket.codec ci).encode p =
      HelloAckPacketHeader.codec.encode p.header ++ (HelloAckPacketBody.codec ci).encode p.body := rfl

@[simp] theorem HelloAckPacketHeader.encode_length (h : HelloAckPacketHeader) :
    (HelloAckPacketHeader.codec.encode h).length = 96 := by
  simp [h.nodePublicKey.length_eq,h.signature.length_eq]

theorem overwrite_append (pre old post new : Bytes) (offset : Nat) (start : offset = pre.length)
    (same : new.length = old.length) :
    overwrite (pre ++ (old ++ post)) offset new = pre ++ (new ++ post) := by
  subst start
  simp [overwrite,same]

variable (P : Platform)

/-! `trace.rs` only compiles with debug assertions, so every `debug_assert!` of the builders
below is checked in each build of the code, and a failed one panics. -/

/-- `Server::compose_hello_packet` for a server with key `privateKey` and contact info
`ourContactInfo`. The buffer is sized with the request, included or not, and the closing
`debug_assert!(request_included || buffer.len() == request_offset)` panics when a
non-empty request is left out. -/
def composeHelloPacket (privateKey : PrivateKey) (ourContactInfo : ContactInfo) (maxLen : Nat)
    (dhPrivateKey : DhPrivateKey) (sessionId : UInt16) (request : Option Bytes) : Except Panic (Bytes × Bool) :=
  let body : HelloPacketBody := ⟨P.crypto.dhPublic dhPrivateKey, sessionId, ourContactInfo⟩
  let bodyOffset := 1 + 96
  let requestOffset := bodyOffset + (HelloPacketBody.codec P.contactInfo).serializedSize body
  let buffer := List.replicate (requestOffset + (request.map List.length).getD 0) packetTypeHello
  let buffer := overwrite buffer bodyOffset ((HelloPacketBody.codec P.contactInfo).encode body)
  let (buffer, requestIncluded) := match request with
    | some requestBuffer =>
      if requestOffset + requestBuffer.length < maxLen then
        (overwrite buffer requestOffset requestBuffer, true)
      else (buffer, false)
    | none => (buffer, false)
  let signature := P.crypto.sign privateKey (buffer.drop bodyOffset)
  let header : HelloPacketHeader := ⟨P.crypto.public privateKey, signature⟩
  let buffer := overwrite buffer 1 (HelloPacketHeader.codec.encode header)
  if requestIncluded || buffer.length == requestOffset then .ok (buffer, requestIncluded)
  else .error .debugAssertion

/-- `Server::new_hello_packet`: the composed HELLO and `debug_assert!(buffer.len() <= max_len)`. -/
def newHelloPacket (privateKey : PrivateKey) (ourContactInfo : ContactInfo) (maxLen : Nat)
    (dhPrivateKey : DhPrivateKey) (mySessionId : UInt16) (request : Option Bytes) : Except Panic (Bytes × Bool) := do
  let (buffer, requestIncluded) ← composeHelloPacket P privateKey ourContactInfo maxLen dhPrivateKey mySessionId request
  if buffer.length ≤ maxLen then .ok (buffer, requestIncluded) else .error .debugAssertion

/-- `Server::new_hello_ack_packet`. Its `debug_assert!(packet_len <= max_len)` comes before the
buffer is built; every response is put on the packet. -/
def newHelloAckPacket (privateKey : PrivateKey) (ourContactInfo : ContactInfo) (maxLen : Nat)
    (dhPublicKey : DhPublicKey) (ourSessionId theirSessionId : UInt16) (addr : SocketAddr)
    (response : Option Bytes) : Except Panic (Bytes × Bool) :=
  let body : HelloAckPacketBody :=
    ⟨dhPublicKey, theirSessionId, ourSessionId, ourContactInfo, .ofSocketAddr addr⟩
  let bodyOffset := 1 + 96
  let responseOffset := bodyOffset + (HelloAckPacketBody.codec P.contactInfo).serializedSize body
  let packetLen := responseOffset + (response.map List.length).getD 0
  if packetLen ≤ maxLen then
    let buffer := List.replicate packetLen packetTypeHelloAck
    let buffer := overwrite buffer bodyOffset ((HelloAckPacketBody.codec P.contactInfo).encode body)
    let (buffer, responseIncluded) := match response with
      | some responseBuffer => (overwrite buffer responseOffset responseBuffer, true)
      | none => (buffer, false)
    let signature := P.crypto.sign privateKey (buffer.drop bodyOffset)
    let header : HelloAckPacketHeader := ⟨P.crypto.public privateKey, signature⟩
    .ok (overwrite buffer 1 (HelloAckPacketHeader.codec.encode header), responseIncluded)
  else .error .debugAssertion

/-- `Server::new_relay_hello_packet`. The buffer is sized with the binserde body, but the body
is written with `bincode::serialize_into`, whose `unwrap` panics when the bincode form does
not fit. Like the HELLO composer it writes at the fixed offset `1 + 96`, then the header,
whose target field makes it longer than 96 bytes, and closes with
`debug_assert_eq!(buffer.len(), _max_len)`. -/
def newRelayHelloPacket (privateKey : PrivateKey) (ourContactInfo : ContactInfo) (maxLen : Nat)
    (target : SocketAddr) (localSessionId : UInt16) (dhPublicKey : DhPublicKey) : Except Panic Bytes :=
  let body : HelloPacketBody := ⟨dhPublicKey, localSessionId, ourContactInfo⟩
  let bodyOffset := 1 + 96
  let bufferLen := bodyOffset + (HelloPacketBody.codec P.contactInfo).serializedSize body
  let buffer := List.replicate bufferLen packetTypeRelayHello
  let bincoded := (HelloPacketBody.codec P.contactInfoBincode).encode body
  if bodyOffset + bincoded.length ≤ bufferLen then
    let buffer := overwrite buffer bodyOffset bincoded
    let signature := P.crypto.sign privateKey (buffer.drop bodyOffset)
    let header : RelayHelloPacketHeader :=
      ⟨.ofSocketAddr target, ⟨P.crypto.public privateKey, signature⟩⟩
    let buffer := overwrite buffer 1 (RelayHelloPacketHeader.codec.encode header)
    if buffer.length = maxLen then .ok buffer else .error .debugAssertion
  else .error .unwrapFailed

/-- `Server::verify_hello_packet`: the signature over the serialized body. -/
def verifyHelloPacket {β : Type} (codec : Codec β) (publicKey : PublicKey) (signature : Signature)
    (body : β) : Except Error Unit :=
  if P.crypto.verify publicKey (codec.encode body) signature then .ok () else .error .invalidSignature

/-- `Server::verify_hello_ack_packet`: the key's address, then the signature over the
serialized body. -/
def verifyHelloAckPacket {β : Type} (codec : Codec β) (nodeId : IdType) (publicKey : PublicKey)
    (signature : Signature) (body : β) : Except Error Unit :=
  if P.crypto.generateAddress publicKey ≠ nodeId then .error .invalidNodeId
  else if P.crypto.verify publicKey (codec.encode body) signature then .ok ()
  else .error .invalidSignature

/-- `Server::verify_hello_ack_packet_raw`: the key's address, then the signature over raw
bytes. -/
def verifyHelloAckPacketRaw (nodeId : IdType) (publicKey : PublicKey) (signature : Signature)
    (buffer : Bytes) : Except Error Unit :=
  if P.crypto.generateAddress publicKey ≠ nodeId then .error .invalidNodeId
  else if P.crypto.verify publicKey buffer signature then .ok ()
  else .error .invalidSignature

section Verify

variable {β : Type} {codec : Codec β} {nodeId : IdType} {publicKey : PublicKey}
  {signature : Signature} {body : β} {buffer : Bytes}

theorem verifyHelloPacket_ok :
    verifyHelloPacket P codec publicKey signature body = .ok () ↔
      P.crypto.verify publicKey (codec.encode body) signature = true := by
  unfold verifyHelloPacket
  split_ifs <;> simp_all

theorem verifyHelloAckPacket_ok :
    verifyHelloAckPacket P codec nodeId publicKey signature body = .ok () ↔
      P.crypto.generateAddress publicKey = nodeId ∧
        P.crypto.verify publicKey (codec.encode body) signature = true := by
  unfold verifyHelloAckPacket
  split_ifs <;> simp_all

theorem verifyHelloAckPacketRaw_ok :
    verifyHelloAckPacketRaw P nodeId publicKey signature buffer = .ok () ↔
      P.crypto.generateAddress publicKey = nodeId ∧ P.crypto.verify publicKey buffer signature = true := by
  unfold verifyHelloAckPacketRaw
  split_ifs <;> simp_all

end Verify

/-- `Server::parse_hello_packet`, on a packet without its type byte. -/
def parseHelloPacket (buffer : Bytes) : Except Error (HelloPacket × Option Bytes) :=
  match HelloPacketHeader.codec.decode buffer with
  | none => .error .deserialize
  | some (header, _) =>
    let bodyOffset := HelloPacketHeader.codec.serializedSize header
    if !P.crypto.verify header.nodePublicKey (buffer.drop bodyOffset) header.signature then
      .error .invalidSignature
    else
      match (HelloPacketBody.codec P.contactInfo).decode (buffer.drop bodyOffset) with
      | none => .error .deserialize
      | some (body, _) =>
        let requestOffset := bodyOffset + (HelloPacketBody.codec P.contactInfo).serializedSize body
        .ok (⟨header, body⟩,
          if requestOffset < buffer.length then some (buffer.drop requestOffset) else none)

/-- The bytes `compose_hello_packet` leaves after the body and whether it reports the
request as included: the request if it fits, nothing when there is none or it is empty, and a
panic for any other request, whose fill of `PACKET_TYPE_HELLO` bytes fails the closing
`debug_assert!`. -/
def helloTail (requestOffset maxLen : Nat) : Option Bytes → Except Panic (Bytes × Bool)
  | some r =>
    if requestOffset + r.length < maxLen then .ok (r, true)
    else if r = [] then .ok ([], false) else .error .debugAssertion
  | none => .ok ([], false)

/-- A tail that is returned is the request's bytes, and they read back as a request exactly
when the request was included and is non-empty. -/
theorem helloTail_ok {requestOffset maxLen : Nat} {request : Option Bytes} {tail : Bytes} {included : Bool}
    (ok : helloTail requestOffset maxLen request = .ok (tail, included)) :
    tail = request.getD [] ∧
      (if tail = [] then none else some tail) = if included = true ∧ request ≠ some [] then request else none := by
  cases request with
  | none => cases ok; simp
  | some r =>
    simp only [helloTail] at ok
    split_ifs at ok with fits empty
    · cases ok
      refine ⟨rfl, ?_⟩
      split_ifs <;> simp_all
    · cases ok
      simp [empty]

/-- A fresh buffer of `1 + 96 + body + n` bytes of `t`, with the body written at `1 + 96`. -/
theorem overwrite_body (t : UInt8) (body : Bytes) (n : Nat) :
    overwrite (List.replicate (1 + 96 + body.length + n) t) (1 + 96) body =
      t :: (List.replicate 96 t ++ (body ++ List.replicate n t)) := by
  have layout : List.replicate (1 + 96 + body.length + n) t =
      (t :: List.replicate 96 t) ++ (List.replicate body.length t ++ List.replicate n t) := by
    simp only [List.replicate_add,List.append_assoc]; rfl
  rw [layout,overwrite_append (t :: List.replicate 96 t) _ _ body (1 + 96) (by simp) (by simp)]
  rfl

theorem overwrite_tail (t : UInt8) (body tail : Bytes) :
    overwrite (t :: (List.replicate 96 t ++ (body ++ List.replicate tail.length t)))
      (1 + 96 + body.length) tail = t :: (List.replicate 96 t ++ (body ++ tail)) := by
  have split : t :: (List.replicate 96 t ++ (body ++ List.replicate tail.length t)) =
      (t :: (List.replicate 96 t ++ body)) ++ (List.replicate tail.length t ++ []) := by
    simp only [List.append_nil,List.cons_append,List.append_assoc]
  rw [split,overwrite_append (t :: (List.replicate 96 t ++ body)) _ _ tail _
    (by simp only [List.length_cons,List.length_append,List.length_replicate]; omega) (by simp)]
  simp only [List.append_nil,List.cons_append,List.append_assoc]

theorem overwrite_header (t : UInt8) (header rest : Bytes) (sized : header.length = 96) :
    overwrite (t :: (List.replicate 96 t ++ rest)) 1 header = t :: (header ++ rest) :=
  overwrite_append [t] (List.replicate 96 t) rest header 1 rfl (by simp [sized])

theorem layout_length (t : UInt8) (header body tail : Bytes) (sized : header.length = 96) :
    (t :: (header ++ (body ++ tail))).length = 1 + 96 + body.length + tail.length := by
  simp only [List.length_cons,List.length_append,sized]
  omega

@[simp] theorem drop_layout (t : UInt8) (rest : Bytes) :
    List.drop (1 + 96) (t :: (List.replicate 96 t ++ rest)) = rest := by
  simp

theorem drop_layout_add (t : UInt8) (rest : Bytes) (k : Nat) :
    List.drop (1 + 96 + k) (t :: (List.replicate 96 t ++ rest)) = rest.drop k := by
  rw [← List.drop_drop,drop_layout]

theorem composeHelloPacket_eq (privateKey : PrivateKey) (ourContactInfo : ContactInfo)
    (maxLen : Nat) (dhPrivateKey : DhPrivateKey) (sessionId : UInt16) (request : Option Bytes) :
    composeHelloPacket P privateKey ourContactInfo maxLen dhPrivateKey sessionId request =
      let encoded := (HelloPacketBody.codec P.contactInfo).encode
        ⟨P.crypto.dhPublic dhPrivateKey, sessionId, ourContactInfo⟩
      (helloTail (1 + 96 + encoded.length) maxLen request).map fun (tail, included) =>
        (packetTypeHello :: (HelloPacketHeader.codec.encode
          ⟨P.crypto.public privateKey, P.crypto.sign privateKey (encoded ++ tail)⟩ ++ (encoded ++ tail)), included) := by
  simp only [composeHelloPacket,Codec.serializedSize]
  generalize (HelloPacketBody.codec P.contactInfo).encode
    ⟨P.crypto.dhPublic dhPrivateKey, sessionId, ourContactInfo⟩ = encoded
  have sized := HelloPacketHeader.encode_length
  cases request with
  | none =>
    simp only [Option.map_none',Option.getD_none,overwrite_body,List.replicate_zero,
      drop_layout,overwrite_header _ _ _ (sized _),helloTail,layout_length _ _ _ _ (sized _)]
    simp only [List.length_nil,Nat.add_zero,beq_self_eq_true,Bool.false_or,if_true]
    rfl
  | some r =>
    simp only [Option.map_some',Option.getD_some,overwrite_body,helloTail]
    split
    · simp only [overwrite_tail,drop_layout,overwrite_header _ _ _ (sized _),Bool.true_or,if_true]
      rfl
    · simp only [drop_layout,overwrite_header _ _ _ (sized _),layout_length _ _ _ _ (sized _),
        List.length_replicate,Bool.false_or]
      by_cases empty : r = []
      · subst empty
        simp only [List.length_nil,Nat.add_zero,beq_self_eq_true,if_true]
        rfl
      · rw [if_neg empty,if_neg (by simpa using empty)]
        rfl

/-- A buffer laid out as header, body and trailing bytes, with a signature that verifies
over body and trailing bytes, parses back to its parts; the trailing bytes are the request
when there are any. -/
theorem parseHelloPacket_layout (header : HelloPacketHeader) (body : HelloPacketBody) (tail : Bytes)
    (signed : P.crypto.verify header.nodePublicKey
      ((HelloPacketBody.codec P.contactInfo).encode body ++ tail) header.signature = true) :
    parseHelloPacket P (HelloPacketHeader.codec.encode header ++
        ((HelloPacketBody.codec P.contactInfo).encode body ++ tail)) =
      .ok (⟨header, body⟩, if tail = [] then none else some tail) := by
  simp only [parseHelloPacket,Codec.decode_encode,Codec.drop_encode,signed,Bool.not_true,
    Codec.drop_encode_encode,Codec.length_encode_encode]
  cases tail <;> simp

/-- Conversely, everything `parse_hello_packet` accepts is laid out so: the header, then
the signed bytes, which are the body's encoding followed by the request, if there is one. -/
theorem parseHelloPacket_signed {buffer : Bytes} {hello : HelloPacket} {request : Option Bytes}
    (parsed : parseHelloPacket P buffer = .ok (hello, request)) :
    buffer = HelloPacketHeader.codec.encode hello.header ++
      ((HelloPacketBody.codec P.contactInfo).encode hello.body ++ request.getD []) ∧
    P.crypto.verify hello.header.nodePublicKey
      ((HelloPacketBody.codec P.contactInfo).encode hello.body ++ request.getD []) hello.header.signature = true ∧
    request ≠ some [] := by
  unfold parseHelloPacket at parsed
  rcases decoded : HelloPacketHeader.codec.decode buffer with _ | ⟨header, rest⟩ <;>
    simp only [decoded] at parsed
  · cases parsed
  obtain rfl := HelloPacketHeader.codec.encode_of_decode decoded
  simp only [Codec.drop_encode] at parsed
  split at parsed
  · cases parsed
  rcases bodyDecoded : (HelloPacketBody.codec P.contactInfo).decode rest with _ | ⟨body, tail⟩ <;>
    simp only [bodyDecoded] at parsed
  · cases parsed
  obtain rfl := (HelloPacketBody.codec P.contactInfo).encode_of_decode bodyDecoded
  simp only [Except.ok.injEq,Prod.mk.injEq] at parsed
  obtain ⟨rfl, rfl⟩ := parsed
  simp only [Codec.drop_encode_encode,Codec.length_encode_encode]
  cases tail <;> simp_all

theorem parseHelloPacket_signed_request :
    let body : HelloPacketBody := ⟨.replicate 32 2, 0, ⟨none, none⟩⟩
    let signed := (HelloPacketBody.codec Platform.insecure.contactInfo).encode body ++ [7]
    let header : HelloPacketHeader :=
      ⟨Platform.insecure.crypto.public (.replicate 32 1), Platform.insecure.crypto.sign (.replicate 32 1) signed⟩
    parseHelloPacket Platform.insecure (HelloPacketHeader.codec.encode header ++ signed) = .ok (⟨header, body⟩, some [7]) ∧
      some [7] ≠ some ([] : Bytes) := by
  intro body signed header
  have parsed := parseHelloPacket_layout Platform.insecure header body [7] (Platform.insecure.crypto.verify_sign _ _)
  exact ⟨parsed, (parseHelloPacket_signed Platform.insecure parsed).2.2⟩

/-- What `new_hello_packet` returns: this node's key with a signature over the body and the
request, the composed body, and the request. The packet fits `max_len`, and the responder
reads the request back exactly when it was included and is non-empty. -/
theorem newHelloPacket_ok {privateKey : PrivateKey} {ourContactInfo : ContactInfo} {maxLen : Nat}
    {dhPrivateKey : DhPrivateKey} {sessionId : UInt16} {request : Option Bytes} {packet : Bytes} {included : Bool}
    (built : newHelloPacket P privateKey ourContactInfo maxLen dhPrivateKey sessionId request = .ok (packet, included)) :
    let body : HelloPacketBody := ⟨P.crypto.dhPublic dhPrivateKey, sessionId, ourContactInfo⟩
    let signed := (HelloPacketBody.codec P.contactInfo).encode body ++ request.getD []
    let header : HelloPacketHeader := ⟨P.crypto.public privateKey, P.crypto.sign privateKey signed⟩
    packet = packetTypeHello :: (HelloPacketHeader.codec.encode header ++ signed) ∧ packet.length ≤ maxLen ∧
      parseHelloPacket P (packet.drop 1) =
        .ok (⟨header, body⟩, if included = true ∧ request ≠ some [] then request else none) := by
  intro body signed header
  simp only [newHelloPacket,composeHelloPacket_eq] at built
  rcases tailed : helloTail (1 + 96 + ((HelloPacketBody.codec P.contactInfo).encode body).length) maxLen request
    with _ | ⟨tail, included'⟩ <;> rw [tailed] at built
  · cases built
  obtain ⟨rfl, parsed⟩ := helloTail_ok tailed
  dsimp only [Except.map,bind,Except.bind] at built
  split at built
  · cases built
    rw [← parsed]
    exact ⟨rfl, ‹_›, parseHelloPacket_layout P header body _ (P.crypto.verify_sign _ _)⟩
  · cases built

/-- `new_hello_packet` panics on every non-empty request that does not fit: the buffer keeps
the request's length, so the closing `debug_assert!` of `compose_hello_packet` fails. What it
does return fits `max_len` and parses back to this node's key with a signature over the body
and the request, the composed body, and the request exactly when it was included and is
non-empty. -/
theorem newHelloPacket_excluded_request (privateKey : PrivateKey) (ourContactInfo : ContactInfo)
    (maxLen : Nat) (dhPrivateKey : DhPrivateKey) (sessionId : UInt16) :
    let body : HelloPacketBody := ⟨P.crypto.dhPublic dhPrivateKey, sessionId, ourContactInfo⟩
    let encoded := (HelloPacketBody.codec P.contactInfo).encode body
    (∀ request : Bytes, request ≠ [] → maxLen ≤ 1 + 96 + encoded.length + request.length →
      newHelloPacket P privateKey ourContactInfo maxLen dhPrivateKey sessionId (some request) =
        .error .debugAssertion) ∧
    ∀ request packet included,
      newHelloPacket P privateKey ourContactInfo maxLen dhPrivateKey sessionId request = .ok (packet, included) →
      packet.length ≤ maxLen ∧
      parseHelloPacket P (packet.drop 1) = .ok (⟨⟨P.crypto.public privateKey,
        P.crypto.sign privateKey (encoded ++ request.getD [])⟩, body⟩,
        if included = true ∧ request ≠ some [] then request else none) := by
  intro body encoded
  refine ⟨fun request nonempty tooLong => ?_, fun request packet included built => (newHelloPacket_ok P built).2⟩
  simp only [newHelloPacket,composeHelloPacket_eq,helloTail,if_neg (not_lt.mpr tooLong),if_neg nonempty]
  rfl

set_option maxRecDepth 4000 in
theorem newHelloPacket_excluded_request_seven :
    newHelloPacket Platform.insecure (.replicate 32 1) ⟨none, none⟩ 133 (.replicate 32 2) 0 (some [7]) =
      .error .debugAssertion ∧
    ∃ packet, newHelloPacket Platform.insecure (.replicate 32 1) ⟨none, none⟩ 1280 (.replicate 32 2) 0 (some [7]) =
      .ok (packet, true) ∧ packet.length ≤ 1280 ∧
      (parseHelloPacket Platform.insecure (packet.drop 1)).toOption.map Prod.snd = some (some [7]) := by
  obtain ⟨packet, built⟩ : ∃ packet, newHelloPacket Platform.insecure (.replicate 32 1) ⟨none, none⟩ 1280
      (.replicate 32 2) 0 (some [7]) = .ok (packet, true) := ⟨_, rfl⟩
  obtain ⟨fits, parsed⟩ := (newHelloPacket_excluded_request Platform.insecure _ _ 1280 _ 0).2 _ _ _ built
  refine ⟨(newHelloPacket_excluded_request Platform.insecure _ _ 133 _ 0).1 [7] (by decide) (by decide),
    packet, built, fits, ?_⟩
  rw [parsed]
  decide

theorem newHelloAckPacket_eq (privateKey : PrivateKey) (ourContactInfo : ContactInfo) (maxLen : Nat)
    (dhPublicKey : DhPublicKey) (ourSessionId theirSessionId : UInt16) (addr : SocketAddr)
    (response : Option Bytes) :
    newHelloAckPacket P privateKey ourContactInfo maxLen dhPublicKey ourSessionId theirSessionId
        addr response =
      let encoded := (HelloAckPacketBody.codec P.contactInfo).encode
        ⟨dhPublicKey, theirSessionId, ourSessionId, ourContactInfo, .ofSocketAddr addr⟩
      if 1 + 96 + encoded.length + (response.map List.length).getD 0 ≤ maxLen then
        .ok (packetTypeHelloAck :: (HelloAckPacketHeader.codec.encode
            ⟨P.crypto.public privateKey, P.crypto.sign privateKey (encoded ++ response.getD [])⟩ ++
          (encoded ++ response.getD [])), response.isSome)
      else .error .debugAssertion := by
  simp only [newHelloAckPacket,Codec.serializedSize]
  generalize (HelloAckPacketBody.codec P.contactInfo).encode
    ⟨dhPublicKey, theirSessionId, ourSessionId, ourContactInfo, .ofSocketAddr addr⟩ = encoded
  split
  · cases response with
    | none =>
      simp only [Option.map_none',Option.getD_none,overwrite_body,List.replicate_zero,
        drop_layout,overwrite_header _ _ _ (HelloAckPacketHeader.encode_length _),Option.isSome_none]
    | some r =>
      simp only [Option.map_some',Option.getD_some,overwrite_body,overwrite_tail,drop_layout,
        overwrite_header _ _ _ (HelloAckPacketHeader.encode_length _),Option.isSome_some]
  · rfl

/-- What `new_hello_ack_packet` returns: this node's key with a signature over the body and
the response, the body, and the response; the packet fits `max_len`, and the response is
reported included exactly when there is one. -/
theorem newHelloAckPacket_ok {privateKey : PrivateKey} {ourContactInfo : ContactInfo} {maxLen : Nat}
    {dhPublicKey : DhPublicKey} {ourSessionId theirSessionId : UInt16} {addr : SocketAddr}
    {response : Option Bytes} {packet : Bytes} {included : Bool}
    (built : newHelloAckPacket P privateKey ourContactInfo maxLen dhPublicKey ourSessionId theirSessionId addr
      response = .ok (packet, included)) :
    let signed := (HelloAckPacketBody.codec P.contactInfo).encode
      ⟨dhPublicKey, theirSessionId, ourSessionId, ourContactInfo, .ofSocketAddr addr⟩ ++ response.getD []
    packet = packetTypeHelloAck :: (HelloAckPacketHeader.codec.encode
      ⟨P.crypto.public privateKey, P.crypto.sign privateKey signed⟩ ++ signed) ∧
    packet.length ≤ maxLen ∧ included = response.isSome := by
  simp only [newHelloAckPacket_eq] at built
  split at built
  · next fits =>
    cases built
    refine ⟨List.append_assoc _ _ _ ▸ rfl, ?_, rfl⟩
    cases response <;>
      simp only [List.length_cons,List.length_append,HelloAckPacketHeader.encode_length,Option.getD_none,
        Option.getD_some,Option.map_none',Option.map_some',List.length_nil] at fits ⊢ <;> omega
  · cases built

/-- A response longer than what is left of `max_len` after the header and the body fails the
`debug_assert!` of `new_hello_ack_packet`. -/
theorem newHelloAckPacket_tooLong (privateKey : PrivateKey) (ourContactInfo : ContactInfo) (maxLen : Nat)
    (dhPublicKey : DhPublicKey) (ourSessionId theirSessionId : UInt16) (addr : SocketAddr) (response : Bytes)
    (tooLong : maxLen < 1 + 96 + (HelloAckPacketBody.codec P.contactInfo).serializedSize
      ⟨dhPublicKey, theirSessionId, ourSessionId, ourContactInfo, .ofSocketAddr addr⟩ + response.length) :
    newHelloAckPacket P privateKey ourContactInfo maxLen dhPublicKey ourSessionId theirSessionId addr
      (some response) = .error .debugAssertion := by
  simp only [Codec.serializedSize] at tooLong
  simp only [newHelloAckPacket_eq,Option.map_some',Option.getD_some]
  rw [if_neg (not_le.mpr tooLong)]

theorem newRelayHelloPacket_eq (privateKey : PrivateKey) (ourContactInfo : ContactInfo) (maxLen : Nat)
    (target : SocketAddr) (localSessionId : UInt16) (dhPublicKey : DhPublicKey) :
    newRelayHelloPacket P privateKey ourContactInfo maxLen target localSessionId dhPublicKey =
      let body : HelloPacketBody := ⟨dhPublicKey, localSessionId, ourContactInfo⟩
      let encoded := (HelloPacketBody.codec P.contactInfo).encode body
      let bincoded := (HelloPacketBody.codec P.contactInfoBincode).encode body
      let signed := bincoded ++ List.replicate (encoded.length - bincoded.length) packetTypeRelayHello
      let buffer := packetTypeRelayHello :: (RelayHelloPacketHeader.codec.encode
          ⟨.ofSocketAddr target, ⟨P.crypto.public privateKey, P.crypto.sign privateKey signed⟩⟩ ++
        signed.drop (SocketAddrSstp.codec.serializedSize (.ofSocketAddr target)))
      if bincoded.length ≤ encoded.length then
        if buffer.length = maxLen then .ok buffer else .error .debugAssertion
      else .error .unwrapFailed := by
  simp only [newRelayHelloPacket,Codec.serializedSize]
  generalize (HelloPacketBody.codec P.contactInfo).encode ⟨dhPublicKey, localSessionId, ourContactInfo⟩ = encoded
  generalize (HelloPacketBody.codec P.contactInfoBincode).encode
    ⟨dhPublicKey, localSessionId, ourContactInfo⟩ = bincoded
  by_cases fits : bincoded.length ≤ encoded.length
  · have fresh : List.replicate (1 + 96 + encoded.length) packetTypeRelayHello =
        List.replicate (1 + 96 + bincoded.length + (encoded.length - bincoded.length)) packetTypeRelayHello := by
      congr 1
      omega
    rw [if_pos (by omega),if_pos fits,fresh,overwrite_body,drop_layout]
    have sized : (RelayHelloPacketHeader.codec.encode ⟨.ofSocketAddr target, ⟨P.crypto.public privateKey,
        P.crypto.sign privateKey (bincoded ++ List.replicate (encoded.length - bincoded.length)
          packetTypeRelayHello)⟩⟩).length = 96 + SocketAddrSstp.codec.serializedSize (.ofSocketAddr target) := by
      simp [RelayHelloPacketHeader.codec,Codec.pair,Codec.serializedSize]; omega
    simp only [overwrite,sized,← Nat.add_assoc,drop_layout_add]
    rfl
  · rw [if_neg (by omega),if_neg fits]

/-- A RELAY_HELLO this node composes never deserializes to a packet that carries the body it
signed: the header's target field overwrites the start of the body, and what is left of the
body is too short to be it. -/
theorem newRelayHelloPacket_body_lost (privateKey : PrivateKey) (ourContactInfo : ContactInfo) (maxLen : Nat)
    (target : SocketAddr) (localSessionId : UInt16) (dhPublicKey : DhPublicKey) {buffer : Bytes}
    (built : newRelayHelloPacket P privateKey ourContactInfo maxLen target localSessionId dhPublicKey = .ok buffer) :
    ((RelayHelloPacket.codec P.contactInfo).deserialize (buffer.drop 1)).map RelayHelloPacket.body ≠
      some ⟨dhPublicKey, localSessionId, ourContactInfo⟩ := by
  simp only [newRelayHelloPacket_eq] at built
  split_ifs at built with fits
  cases built
  intro same
  obtain ⟨packet, parsed, sameBody⟩ := Option.map_eq_some'.mp same
  have decoded := Codec.deserialize_some parsed
  simp only [List.drop_succ_cons,List.drop_zero,RelayHelloPacket.codec,Codec.map_decode,
    Codec.pair_decode_encode,Option.map_map,Option.map_eq_some'] at decoded
  obtain ⟨⟨body, rest⟩, bodyDecoded, packed⟩ := decoded
  simp only [Function.comp,Prod.mk.injEq] at packed
  have shorter := Codec.decode_shorter (a := ⟨dhPublicKey, localSessionId, ourContactInfo⟩) ?_ bodyDecoded
  · rw [← packed.1] at sameBody
    subst sameBody
    exact lt_irrefl _ shorter
  · have pos := SocketAddrSstp.codec_size_pos (.ofSocketAddr target)
    simp only [List.length_drop,List.length_append,List.length_replicate,Codec.serializedSize,
      HelloPacketBody.encode_eq,FixedBytes.length_eq] at pos fits ⊢
    omega

set_option maxRecDepth 4000 in
theorem newRelayHelloPacket_body_lost_v4 :
    ∃ buffer, newRelayHelloPacket Platform.insecure (.replicate 32 1) ⟨none, none⟩ 133 (.v4 (.replicate 4 3) 3) 0
        (.replicate 32 2) = .ok buffer ∧
      ((RelayHelloPacket.codec Platform.insecure.contactInfo).deserialize (buffer.drop 1)).map RelayHelloPacket.body ≠
        some ⟨.replicate 32 2, 0, ⟨none, none⟩⟩ := by
  obtain ⟨buffer, built⟩ : ∃ buffer, newRelayHelloPacket Platform.insecure (.replicate 32 1) ⟨none, none⟩ 133
      (.v4 (.replicate 4 3) 3) 0 (.replicate 32 2) = .ok buffer := ⟨_, rfl⟩
  exact ⟨buffer, built, newRelayHelloPacket_body_lost Platform.insecure _ _ _ _ _ _ built⟩

end StoneNet
