import StoneNet.Sstp.Packet

/-! The request side of `Node`: how a message on a connection is dispatched, and the
FIND_VALUE exchange. A message starts with its type byte; one with the high bit set is for
an actor network and carries the actor's 32-byte id next. A FIND_VALUE response has two
framings, chosen by whether the requester expects the responder's fingers in every answer.
The wire forms of `FindNodeResponse` and `FindValueRequest` and the type code of FIND_VALUE
are declared outside the source files and are parameters here. -/
namespace StoneNet

/-- `FindValueRequest`, with the fields `process_find_value_request` reads. -/
structure FindValueRequest where
  id : IdType
  valueType : UInt8
  deriving DecidableEq

/-- Where `process_request_message` passes a message on: to an actor network's handler, or
to the node's own. -/
inductive RequestMessage where
  | actor (actorId : IdType) (messageTypeId : UInt8) (payload : Bytes)
  | plain (messageTypeId : UInt8) (payload : Bytes)
  deriving DecidableEq

/-- `bincode::deserialize(&buffer[1..33]).unwrap()`, the actor id of a message. -/
def actorId (buffer : Bytes) : Except Panic IdType :=
  if buffer.length < 33 then .error .indexOutOfRange
  else
    match (Codec.fixed 32).deserialize ((buffer.drop 1).take 32) with
    | some id => .ok id
    | none => .error .unwrapFailed

/-- `process_request_message`, up to the handler it calls. -/
def processRequestMessage (buffer : Bytes) : Except Panic RequestMessage :=
  match buffer with
  | [] => .error .indexOutOfRange
  | messageTypeId :: payload =>
    if 0x80 ≤ messageTypeId then
      (actorId buffer).map fun id => .actor id (messageTypeId ^^^ 0x80) (buffer.drop 33)
    else .ok (.plain messageTypeId payload)

/-- `process_find_value_request_message`: only an actor's FIND_VALUE request is answered,
by that actor with the bytes after its id. -/
def processFindValueRequestMessage (findValueRequest : UInt8) (buffer : Bytes) :
    Except Panic (Option (IdType × Bytes)) :=
  match buffer with
  | [] => .error .indexOutOfRange
  | messageTypeId :: _ =>
    if 0x80 ≤ messageTypeId then
      if messageTypeId ^^^ 0x80 ≠ findValueRequest then .ok none
      else (actorId buffer).map fun id => some (id, buffer.drop 33)
    else .ok none

/-- One message of the loop of `handle_find_value_connection`: anything but a FIND_VALUE
request ends the loop (`none`). -/
def handleFindValueMessage (findValueRequest : UInt8) (message : Bytes) :
    Except Panic (Option (Option (IdType × Bytes))) :=
  match message with
  | [] => .error .indexOutOfRange
  | messageType :: _ =>
    if messageType &&& 0x7F ≠ findValueRequest then .ok none
    else (processFindValueRequestMessage findValueRequest message).map some

section FindValue

variable {Fingers : Type} (fingersCodec : Codec Fingers)

/-- The response `process_find_value_request` builds from a lookup's `value` and the
`FindNodeResponse` of the nearest contacts: the fingers first and then the value, or a
presence byte and then the value or the fingers. -/
def findValueResponse (forceIncludingFingers : Bool) (value : Option Bytes) (response : Fingers) : Bytes :=
  if forceIncludingFingers then fingersCodec.encode response ++ value.getD []
  else
    match value with
    | some v => 1 :: v
    | none => 0 :: fingersCodec.encode response

/-- `process_find_value_request` on a request that a lookup answers: `lookup` is the
database's answer for the requested id and type, `none` for an error or an unknown actor,
and `nearest` the `FindNodeResponse` of the contacts nearest the id. -/
def processFindValueRequest (requestCodec : Codec FindValueRequest) (buffer : Bytes)
    (lookup : FindValueRequest → Option (Option Bytes)) (nearest : IdType → Fingers)
    (actorId : Option IdType) : Option Bytes :=
  let forceIncludingFingers := actorId.isNone
  (requestCodec.deserialize buffer).bind fun request =>
    (lookup request).map fun value =>
      findValueResponse fingersCodec forceIncludingFingers value (nearest request.id)

/-- What `process_find_value_request` answers is the response built from a request it
decoded and the lookup's answer for it. -/
theorem processFindValueRequest_some {requestCodec : Codec FindValueRequest} {buffer : Bytes}
    {lookup : FindValueRequest → Option (Option Bytes)} {nearest : IdType → Fingers}
    {actorId : Option IdType} {response : Bytes}
    (answered : processFindValueRequest fingersCodec requestCodec buffer lookup nearest actorId = some response) :
    ∃ request value, requestCodec.deserialize buffer = some request ∧ lookup request = some value ∧
      response = findValueResponse fingersCodec actorId.isNone value (nearest request.id) := by
  obtain ⟨request, decoded, looked⟩ := Option.bind_eq_some.mp answered
  obtain ⟨value, found, rfl⟩ := Option.map_eq_some'.mp looked
  exact ⟨request, value, decoded, found, rfl⟩

/-- `process_find_value_response`. A failure that `handle_connection_issue` reports makes it
`none`; a panic is an index out of range. -/
def processFindValueResponse (response : Bytes) (expectFingersInResponse : Bool) :
    Except Panic (Option (Option Bytes × Option Fingers)) :=
  if expectFingersInResponse then
    match fingersCodec.decode response with
    | none => .ok none
    | some (contacts, _) =>
      let contactsLen := fingersCodec.serializedSize contacts
      if response.length = contactsLen then .ok (some (none, some contacts))
      else .ok (some (some (response.drop contactsLen), some contacts))
  else
    match response with
    | [] => .error .indexOutOfRange
    | present :: rest =>
      if present = 1 then .ok (some (some rest, none))
      else if present = 0 then .ok (some (none, none))
      else .ok none

/-- The fingers-first framing gives back the fingers and every non-empty value; an empty
value comes back as none, since both are sent as nothing after the fingers. The
presence-byte framing gives back a value that is there. -/
theorem processFindValueResponse_findValueResponse (value : Option Bytes) (response : Fingers) (v : Bytes) :
    processFindValueResponse fingersCodec (findValueResponse fingersCodec true value response) true =
      .ok (some (value.filter (fun v => !v.isEmpty), some response)) ∧
    processFindValueResponse fingersCodec (findValueResponse fingersCodec false (some v) response) false =
      .ok (some (some v, none)) := by
  refine ⟨?_, rfl⟩
  simp only [findValueResponse,processFindValueResponse,if_true,Codec.decode_encode,Codec.drop_encode,
    List.length_append]
  rcases value with _ | _ | ⟨b, bs⟩ <;> simp [Codec.serializedSize,Option.filter]

/-- In the presence-byte framing the fingers sent with an absent value are not read back. -/
theorem processFindValueResponse_absent_drops_fingers (response : Fingers) :
    processFindValueResponse fingersCodec (findValueResponse fingersCodec false none response) false =
      .ok (some (none, none)) := rfl

end FindValue

/-- An empty value sent fingers first comes back as no value. -/
theorem processFindValueResponse_empty_value :
    processFindValueResponse Codec.u16 (findValueResponse Codec.u16 true (some []) 7) true ≠
      .ok (some (some [], some 7)) := by
  intro h
  cases h

/-- The handlers index a remote message before checking its length: an empty message, an
actor message shorter than its 33-byte prefix, and an empty FIND_VALUE response in the
presence-byte framing all panic. -/
theorem node_messages_index_panics {Fingers : Type} (fingersCodec : Codec Fingers)
    (findValueRequest messageTypeId : UInt8) (payload : Bytes)
    (actor : 0x80 ≤ messageTypeId) (request : messageTypeId &&& 0x7F = findValueRequest)
    (actorRequest : messageTypeId ^^^ 0x80 = findValueRequest) (short : payload.length < 32) :
    processRequestMessage [] = .error .indexOutOfRange ∧
    processRequestMessage (messageTypeId :: payload) = .error .indexOutOfRange ∧
    handleFindValueMessage findValueRequest [] = .error .indexOutOfRange ∧
    handleFindValueMessage findValueRequest (messageTypeId :: payload) = .error .indexOutOfRange ∧
    processFindValueResponse fingersCodec [] false = .error .indexOutOfRange := by
  have truncated : actorId (messageTypeId :: payload) = .error .indexOutOfRange := by
    simp [actorId,short]
  refine ⟨rfl, ?_, rfl, ?_, rfl⟩
  · simp [processRequestMessage,actor,truncated,Except.map]
  · simp [handleFindValueMessage,processFindValueRequestMessage,request,actorRequest,actor,truncated,Except.map]

theorem node_messages_index_panics_actor :
    (0x80 : UInt8) ≤ 0x83 ∧ (0x83 : UInt8) &&& 0x7F = 3 ∧ (0x83 : UInt8) ^^^ 0x80 = 3 ∧ ([] : Bytes).length < 32 ∧
    processRequestMessage [] = .error .indexOutOfRange ∧
    processRequestMessage [0x83] = .error .indexOutOfRange ∧
    handleFindValueMessage 3 [] = .error .indexOutOfRange ∧
    handleFindValueMessage 3 [0x83] = .error .indexOutOfRange ∧
    processFindValueResponse Codec.u16 [] false = .error .indexOutOfRange :=
  ⟨by decide, by decide, by decide, by decide,
    node_messages_index_panics Codec.u16 3 0x83 [] (by decide) (by decide) (by decide) (by decide)⟩

end StoneNet
