import StoneNet.Node.Fingers

/-! How a node opens a connection to a contact it has picked a strategy for:
`Node::connect_by_strategy`. The handshake of a dial, the overlay node's relays and its
reversed-connection request are outside the source files, so the model ends at what
`connect_by_strategy` asks of them, an `OpenRequest`, or at the panic it reaches first. -/
namespace StoneNet

/-- What `connect_by_strategy` asks of the rest of the node: a dial of a contact option through
`Node::connect`; a reversed connection requested over a relay connection, which is closed
afterwards when the overlay node gave it; a relay opened by the overlay node; or nothing. -/
inductive OpenRequest (Connection : Type) where
  | connect (option : ContactOption)
  | reversed (relay : Connection) (target contactMe : ContactOption) (closeRelay : Bool)
  | openRelay
  | none
  deriving DecidableEq

/-- The `ContactOption` a hole-punched target is asked to connect back to: the node's own IPv4
address and UDP port, both `unwrap`ped from its contact info. -/
def contactMeOption (contactInfo : ContactInfo) : Except Panic ContactOption :=
  match contactInfo.ipv4 with
  | none => .error .unwrapFailed
  | some entry =>
    match entry.availability.udp with
    | none => .error .unwrapFailed
    | some udp => .ok ⟨.v4 entry.addr udp.port, false⟩

section Connect

variable {Bucket Connection : Type} {ops : BucketOps Bucket} (reads : BucketReads Bucket Connection ops)

/-- `Node::connect_by_strategy`. `contactInfo` is the node's own contact info when it is called,
`contactOption` the `contact_option()` of a connection, `lastOpenConnection` the relay
connection the caller passes, and `overlayConnection` what the overlay node's
`find_connection_for_node` has for the target. -/
def Node.connectByStrategy (node : Node Bucket) (contactInfo : ContactInfo) (contactOption : Connection → ContactOption)
    (lastOpenConnection overlayConnection : Option Connection) (nodeInfo : NodeContactInfo) (strategy : ContactStrategy) :
    Except Panic (OpenRequest Connection) :=
  match strategy.method with
  | .direct => .ok (.connect strategy.contact)
  | .holePunch =>
    match lastOpenConnection with
    | some relay => (contactMeOption contactInfo).map fun contactMe => .reversed relay strategy.contact contactMe false
    | none =>
      match node.findConnectionInBuckets reads nodeInfo.nodeId with
      | some existing => .ok (.connect (contactOption existing))
      | none =>
        match overlayConnection with
        | some relay => (contactMeOption contactInfo).map fun contactMe => .reversed relay strategy.contact contactMe true
        | none => .ok .none
  | .relay => .ok .openRelay

end Connect

end StoneNet
