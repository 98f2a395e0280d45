import StoneNet.Crypto

/-! Addresses, contact info and the SSTP packet structs of `server.rs` with their binserde
codecs. A struct is its fields one after the other and an enum is a `u32` variant index
and then its fields, as with bincode; only the contact info, whose declaration is not in
the source files, keeps its codec as a parameter. -/
namespace StoneNet

abbrev Ipv4Addr := FixedBytes 4
abbrev Ipv6Addr := FixedBytes 16

/-- `std::net::SocketAddr`. Flow info and scope id are left out: the code sets both to zero
wherever it builds an address. -/
inductive SocketAddr where
  | v4 (ip : Ipv4Addr) (port : UInt16)
  | v6 (ip : Ipv6Addr) (port : UInt16)
  deriving DecidableEq

def SocketAddr.isIpv4 : SocketAddr → Bool
  | .v4 _ _ => true
  | .v6 _ _ => false

structure SocketAddrSstpV4 where
  ip : Ipv4Addr
  port : UInt16
  deriving DecidableEq

structure SocketAddrSstpV6 where
  ip : Ipv6Addr
  port : UInt16
  deriving DecidableEq

inductive SocketAddrSstp where
  | v4 (addr : SocketAddrSstpV4)
  | v6 (addr : SocketAddrSstpV6)
  deriving DecidableEq

namespace SocketAddrSstp

def isIpv4 : SocketAddrSstp → Bool
  | .v4 _ => true
  | .v6 _ => false

/-- `From<SocketAddr> for SocketAddrSstp`. -/
def ofSocketAddr : SocketAddr → SocketAddrSstp
  | .v4 ip port => .v4 ⟨ip, port⟩
  | .v6 ip port => .v6 ⟨ip, port⟩

/-- `Into<SocketAddr> for SocketAddrSstp`. -/
def toSocketAddr : SocketAddrSstp → SocketAddr
  | .v4 a => .v4 a.ip a.port
  | .v6 a => .v6 a.ip a.port

@[simp] theorem toSocketAddr_ofSocketAddr (a : SocketAddr) : toSocketAddr (ofSocketAddr a) = a := by
  cases a <;> rfl

@[simp] theorem isIpv4_ofSocketAddr (a : SocketAddr) : (ofSocketAddr a).isIpv4 = a.isIpv4 := by
  cases a <;> rfl

def codec : Codec SocketAddrSstp :=
  (Codec.sum (Codec.pair (Codec.fixed 4) Codec.u16) (Codec.pair (Codec.fixed 16) Codec.u16)).map
    { toFun := fun | .inl (ip, port) => .v4 ⟨ip, port⟩ | .inr (ip, port) => .v6 ⟨ip, port⟩
      invFun := fun | .v4 a => .inl (a.ip, a.port) | .v6 a => .inr (a.ip, a.port)
      left_inv := fun | .inl _ => rfl | .inr _ => rfl
      right_inv := fun | .v4 _ => rfl | .v6 _ => rfl }

/-- Every address takes at least its four-byte variant index on the wire. -/
theorem codec_size_pos (a : SocketAddrSstp) : 0 < codec.serializedSize a := by
  cases a <;> exact Nat.zero_lt_succ _

end SocketAddrSstp

/-- Modelled from the spec: the NAT-reachability category of one transport. -/
inductive Openness where
  | bidirectional
  | punchable
  | unidirectional
  deriving DecidableEq

/-- Modelled from the spec: a port with its openness. -/
structure TransportOption where
  port : UInt16
  openness : Openness
  deriving DecidableEq

structure TransportAvailability where
  udp : Option TransportOption
  tcp : Option TransportOption
  deriving DecidableEq

structure ContactInfoEntry (Addr : Type) where
  addr : Addr
  availability : TransportAvailability
  deriving DecidableEq

/-- Modelled from the spec: `ContactInfo`, an optional IPv4 and an optional IPv6 entry. -/
structure ContactInfo where
  ipv4 : Option (ContactInfoEntry Ipv4Addr)
  ipv6 : Option (ContactInfoEntry Ipv6Addr)
  deriving DecidableEq

structure HelloPacketHeader where
  nodePublicKey : PublicKey
  signature : Signature
  deriving DecidableEq

structure HelloPacketBody where
  dhPublicKey : DhPublicKey
  sessionId : UInt16
  contactInfo : ContactInfo
  deriving DecidableEq

structure HelloPacket where
  header : HelloPacketHeader
  body : HelloPacketBody
  deriving DecidableEq

structure HelloAckPacketHeader where
  nodePublicKey : PublicKey
  signature : Signature
  deriving DecidableEq

structure HelloAckPacketBody where
  dhPublicKey : DhPublicKey
  sourceSessionId : UInt16
  serverSessionId : UInt16
  contactInfo : ContactInfo
  linkAddress : SocketAddrSstp
  deriving DecidableEq

structure HelloAckPacket where
  header : HelloAckPacketHeader
  body : HelloAckPacketBody
  deriving DecidableEq

structure RelayHelloPacketHeader where
  target : SocketAddrSstp
  base : HelloPacketHeader
  deriving DecidableEq

/-- `RelayHelloPacketBody` and `RelayedHelloPacketBody` are `HelloPacketBody`. -/
structure RelayHelloPacket where
  header : RelayHelloPacketHeader
  body : HelloPacketBody
  deriving DecidableEq

structure RelayedHelloPacketHeader where
  relayerSessionId : UInt16
  base : HelloPacketHeader
  deriving DecidableEq

structure RelayedHelloPacket where
  header : RelayedHelloPacketHeader
  body : HelloPacketBody
  deriving DecidableEq

structure RelayedHelloAckPacketBody where
  relaySessionId : UInt16
  base : HelloAckPacketBody
  deriving DecidableEq

/-- `RelayedHelloAckPacketHeader` is `HelloAckPacketHeader`. -/
structure RelayedHelloAckPacket where
  header : HelloAckPacketHeader
  body : RelayedHelloAckPacketBody
  deriving DecidableEq

structure RelayHelloAckPacketHeader where
  relayerSessionId : UInt16
  base : HelloAckPacketHeader
  deriving DecidableEq

/-- `RelayHelloAckPacketBody` is `RelayedHelloAckPacketBody`. -/
structure RelayHelloAckPacket where
  header : RelayHelloAckPacketHeader
  body : RelayedHelloAckPacketBody
  deriving DecidableEq

section Codecs

variable (ci : Codec ContactInfo)

def HelloPacketHeader.codec : Codec HelloPacketHeader :=
  (Codec.pair (Codec.fixed 32) (Codec.fixed 64)).map
    ⟨fun (k, s) => ⟨k, s⟩, fun h => (h.nodePublicKey, h.signature), fun _ => rfl, fun _ => rfl⟩

def HelloAckPacketHeader.codec : Codec HelloAckPacketHeader :=
  (Codec.pair (Codec.fixed 32) (Codec.fixed 64)).map
    ⟨fun (k, s) => ⟨k, s⟩, fun h => (h.nodePublicKey, h.signature), fun _ => rfl, fun _ => rfl⟩

def HelloPacketBody.codec : Codec HelloPacketBody :=
  (Codec.pair (Codec.fixed 32) (Codec.pair Codec.u16 ci)).map
    ⟨fun (k, i, c) => ⟨k, i, c⟩, fun b => (b.dhPublicKey, b.sessionId, b.contactInfo),
      fun _ => rfl, fun _ => rfl⟩

@[simp] theorem HelloPacketBody.encode_eq (b : HelloPacketBody) :
    (HelloPacketBody.codec ci).encode b = b.dhPublicKey.bytes ++ (Codec.u16.encode b.sessionId ++ ci.encode b.contactInfo) :=
  rfl

def HelloAckPacketBody.codec : Codec HelloAckPacketBody :=
  (Codec.pair (Codec.fixed 32) (Codec.pair Codec.u16 (Codec.pair Codec.u16
      (Codec.pair ci SocketAddrSstp.codec)))).map
    ⟨fun (k, s, t, c, l) => ⟨k, s, t, c, l⟩,
      fun b => (b.dhPublicKey, b.sourceSessionId, b.serverSessionId, b.contactInfo, b.linkAddress),
      fun _ => rfl, fun _ => rfl⟩

def HelloPacket.codec : Codec HelloPacket :=
  (Codec.pair HelloPacketHeader.codec (HelloPacketBody.codec ci)).map
    ⟨fun (h, b) => ⟨h, b⟩, fun p => (p.header, p.body), fun _ => rfl, fun _ => rfl⟩

def HelloAckPacket.codec : Codec HelloAckPacket :=
  (Codec.pair HelloAckPacketHeader.codec (HelloAckPacketBody.codec ci)).map
    ⟨fun (h, b) => ⟨h, b⟩, fun p => (p.header, p.body), fun _ => rfl, fun _ => rfl⟩

def RelayHelloPacketHeader.codec : Codec RelayHelloPacketHeader :=
  (Codec.pair SocketAddrSstp.codec HelloPacketHeader.codec).map
    ⟨fun (t, b) => ⟨t, b⟩, fun h => (h.target, h.base), fun _ => rfl, fun _ => rfl⟩

def RelayHelloPacket.codec : Codec RelayHelloPacket :=
  (Codec.pair RelayHelloPacketHeader.codec (HelloPacketBody.codec ci)).map
    ⟨fun (h, b) => ⟨h, b⟩, fun p => (p.header, p.body), fun _ => rfl, fun _ => rfl⟩

def RelayedHelloPacketHeader.codec : Codec RelayedHelloPacketHeader :=
  (Codec.pair Codec.u16 HelloPacketHeader.codec).map
    ⟨fun (i, b) => ⟨i, b⟩, fun h => (h.relayerSessionId, h.base), fun _ => rfl, fun _ => rfl⟩

def RelayedHelloPacket.codec : Codec RelayedHelloPacket :=
  (Codec.pair RelayedHelloPacketHeader.codec (HelloPacketBody.codec ci)).map
    ⟨fun (h, b) => ⟨h, b⟩, fun p => (p.header, p.body), fun _ => rfl, fun _ => rfl⟩

def RelayedHelloAckPacketBody.codec : Codec RelayedHelloAckPacketBody :=
  (Codec.pair Codec.u16 (HelloAckPacketBody.codec ci)).map
    ⟨fun (i, b) => ⟨i, b⟩, fun b => (b.relaySessionId, b.base), fun _ => rfl, fun _ => rfl⟩

def RelayedHelloAckPacket.codec : Codec RelayedHelloAckPacket :=
  (Codec.pair HelloAckPacketHeader.codec (RelayedHelloAckPacketBody.codec ci)).map
    ⟨fun (h, b) => ⟨h, b⟩, fun p => (p.header, p.body), fun _ => rfl, fun _ => rfl⟩

def RelayHelloAckPacketHeader.codec : Codec RelayHelloAckPacketHeader :=
  (Codec.pair Codec.u16 HelloAckPacketHeader.codec).map
    ⟨fun (i, b) => ⟨i, b⟩, fun h => (h.relayerSessionId, h.base), fun _ => rfl, fun _ => rfl⟩

def RelayHelloAckPacket.codec : Codec RelayHelloAckPacket :=
  (Codec.pair RelayHelloAckPacketHeader.codec (RelayedHelloAckPacketBody.codec ci)).map
    ⟨fun (h, b) => ⟨h, b⟩, fun p => (p.header, p.body), fun _ => rfl, fun _ => rfl⟩

end Codecs

/-- A binserde encoding of the spec's contact info: enums by variant index, options by a
tag byte. The source does not fix this layout; it serves concrete runs. -/
def ContactInfo.codec : Codec ContactInfo :=
  let openness : Codec Openness := (Codec.sum Codec.unit (Codec.sum Codec.unit Codec.unit)).map
    { toFun := fun | .inl _ => .bidirectional | .inr (.inl _) => .punchable | .inr (.inr _) => .unidirectional
      invFun := fun | .bidirectional => .inl () | .punchable => .inr (.inl ()) | .unidirectional => .inr (.inr ())
      left_inv := fun | .inl _ => rfl | .inr (.inl _) => rfl | .inr (.inr _) => rfl
      right_inv := fun | .bidirectional => rfl | .punchable => rfl | .unidirectional => rfl }
  let transport : Codec TransportOption := (Codec.pair Codec.u16 openness).map
    ⟨fun (p, o) => ⟨p, o⟩, fun t => (t.port, t.openness), fun _ => rfl, fun _ => rfl⟩
  let availability : Codec TransportAvailability :=
    (Codec.pair (Codec.option transport) (Codec.option transport)).map
      ⟨fun (u, t) => ⟨u, t⟩, fun a => (a.udp, a.tcp), fun _ => rfl, fun _ => rfl⟩
  let entry (n : Nat) : Codec (ContactInfoEntry (FixedBytes n)) :=
    (Codec.pair (Codec.fixed n) availability).map
      ⟨fun (a, v) => ⟨a, v⟩, fun e => (e.addr, e.availability), fun _ => rfl, fun _ => rfl⟩
  (Codec.pair (Codec.option (entry 4)) (Codec.option (entry 16))).map
    ⟨fun (a, b) => ⟨a, b⟩, fun c => (c.ipv4, c.ipv6), fun _ => rfl, fun _ => rfl⟩

/-- Modelled from the spec: `sstp::Error` is declared outside the source files. These are
the variants the server code raises, named after the spec's error taxonomy; a failing
binserde call is `deserialize`, a failing link is `io`. -/
inductive Error where
  | timeout
  | connectionClosed
  | invalidSignature
  | invalidNodeId
  | invalidMessageType (messageType : UInt8)
  | invalidSessionId (sessionId : UInt16)
  | sessionNotForRelaying (sessionId : UInt16)
  | malformedMessage
  | outOfSessions
  | noConnectionOptions
  | deserialize
  | io
  deriving DecidableEq

/-- Why a task panics: an index or `array_ref!` out of range, an `unwrap` that fails, the
`panic!` on an unexpected transport-data variant, or a failed `debug_assert!`. -/
inductive Panic where
  | indexOutOfRange
  | unwrapFailed
  | unexpectedTransportData
  | debugAssertion
  deriving DecidableEq

/-- What the server code takes from outside the repository: the primitives, the binserde
form of the contact info, its bincode form, which `new_relay_hello_packet` writes with
`bincode::serialize_into`, `ContactInfo::update`, which records a reflexive address, and the
constant `DEFAULT_TIMEOUT`. -/
structure Platform where
  crypto : Crypto
  contactInfo : Codec ContactInfo
  contactInfoBincode : Codec ContactInfo
  updateContactInfo : ContactInfo → SocketAddr → Bool → ContactInfo
  defaultTimeout : Nat

/-- The platform of concrete runs: insecure primitives, the contact codec above for both
forms (it lays the struct out as bincode does), an `update` that keeps the contact info as it
is, and a timeout of ten units. -/
def Platform.insecure : Platform :=
  ⟨Crypto.insecure, ContactInfo.codec, ContactInfo.codec, fun c _ _ => c, 10⟩

end StoneNet
