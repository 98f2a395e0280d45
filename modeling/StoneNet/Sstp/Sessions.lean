import StoneNet.Sstp.Packet
import Mathlib.Data.List.AList

/-! The session table of the SSTP server: `SessionData`, `Sessions` with its id allocator
`next_id`, and the server operations that create, find, update and remove sessions. Each
of them holds the `sessions` lock over its whole update of the map, so an interleaving of
them is a sequence of the functions below. -/
namespace StoneNet

/-- The arguments a `Transporter` is spawned with; the session's `handle` stands for it. -/
structure TransporterHandle where
  encryptSessionId : UInt16
  localSessionId : UInt16
  destSessionId : UInt16
  ourNodeId : IdType
  theirNodeId : IdType
  dhPrivateKey : DhPrivateKey
  theirPublicKey : DhPublicKey
  deriving DecidableEq

/-- An mpsc channel, named by the number its creator gives it. -/
abbrev ChannelId := Nat

structure SessionTransportDataDirect where
  destSessionId : Option UInt16
  encryptSessionId : Option UInt16
  helloChannel : Option ChannelId
  relayNodeId : Option IdType
  handle : Option TransporterHandle
  packetProcessor : ChannelId
  deriving DecidableEq

/-- A relay session. Its link senders are those bound to `sourceAddr` and `targetAddr`;
its `hello_sender` is never used by the server and is left out. -/
structure SessionTransportDataRelay where
  sourceSessionId : UInt16
  sourceAddr : SocketAddr
  targetSessionId : UInt16
  targetAddr : SocketAddr
  deriving DecidableEq

inductive SessionTransportData where
  | empty
  | direct (data : SessionTransportDataDirect)
  | relay (data : SessionTransportDataRelay)
  deriving DecidableEq

/-- Times are whole time units; `last_activity` is the shared `SystemTime` of the session. -/
structure SessionData where
  theirNodeId : Option IdType
  lastActivity : Nat
  transportData : SessionTransportData
  keepAliveTimeout : Nat
  deriving DecidableEq

/-- `SessionData::new`, created at time `now`. -/
def SessionData.new (theirNodeId : Option IdType) (transportData : SessionTransportData)
    (timeout now : Nat) : SessionData :=
  ⟨theirNodeId, now, transportData, timeout⟩

/-- The `(their_node_id, dest_session_id)` pair a Direct session answers to, when it has both. -/
def SessionData.directPair (data : SessionData) : Option (IdType × UInt16) :=
  match data.transportData with
  | .direct d => data.theirNodeId.bind fun n => d.destSessionId.map (n, ·)
  | _ => none

/-- `Sessions`; the field `next_id` is the allocation `cursor`. The map's keys are unique. -/
structure Sessions where
  map : AList (fun _ : UInt16 => SessionData)
  cursor : UInt16

namespace Sessions

/-- `Sessions::new`. -/
def new : Sessions := ⟨∅, 0⟩

/-- The loop of `Sessions::next_id`: `budget` is `0xFFFF - i`, the probes left before `i`
reaches `0xFFFF` and the loop gives up, leaving the cursor where it stopped. -/
def probe (map : AList (fun _ : UInt16 => SessionData)) : Nat → UInt16 → Option UInt16 × UInt16
  | 0, cursor => (none, cursor)
  | budget + 1, cursor =>
    if (map.lookup cursor).isSome then
      if budget = 0 then (none, cursor + 1) else probe map budget (cursor + 1)
    else (some cursor, cursor + 1)

/-- `Sessions::next_id`. -/
def nextId (s : Sessions) : Option UInt16 × Sessions :=
  let probed := probe s.map 0xFFFF s.cursor
  (probed.1, { s with cursor := probed.2 })

def insert (s : Sessions) (id : UInt16) (data : SessionData) : Sessions :=
  { s with map := s.map.insert id data }

def remove (s : Sessions) (id : UInt16) : Sessions :=
  { s with map := s.map.erase id }

/-- Whether a session is the Direct one for `(their_node_id, their_session_id)`, as
`find_their_session` tests it. -/
def isTheirSession (theirNodeId : IdType) (theirSessionId : UInt16) (data : SessionData) : Bool :=
  match data.transportData with
  | .direct d => data.theirNodeId == some theirNodeId && d.destSessionId == some theirSessionId
  | _ => false

/-- `Sessions::find_their_session`, in the map's iteration order. -/
def findTheirSession (s : Sessions) (theirNodeId : IdType) (theirSessionId : UInt16) :
    Option UInt16 :=
  (s.map.entries.find? fun e => isTheirSession theirNodeId theirSessionId e.2).map (·.1)

/-- `Server::new_outgoing_session`. -/
def newOutgoingSession (s : Sessions) (theirNodeId : Option IdType)
    (transportData : SessionTransportData) (timeout now : Nat) : Option UInt16 × Sessions :=
  match s.nextId with
  | (none, s) => (none, s)
  | (some id, s) => (some id, s.insert id (.new theirNodeId transportData timeout now))

/-- `Server::new_incomming_session`: an existing session for the pair is returned with
`is_new = false`; otherwise a Direct session is created. -/
def newIncommingSession (s : Sessions) (theirNodeId : IdType) (destSessionId encryptSessionId : UInt16)
    (packetSender : ChannelId) (timeout now : Nat) : Except Error (UInt16 × Bool) × Sessions :=
  match s.findTheirSession theirNodeId destSessionId with
  | some ourSessionId => (.ok (ourSessionId, false), s)
  | none =>
    let data := SessionData.new (some theirNodeId)
      (.direct ⟨some destSessionId, some encryptSessionId, none, none, none, packetSender⟩) timeout now
    match s.nextId with
    | (none, s) => (.error .outOfSessions, s)
    | (some id, s) => (.ok (id, true), s.insert id data)

/-- `Server::new_relay_session`; the target session id is zero until the target answers. -/
def newRelaySession (s : Sessions) (targetNodeId : IdType) (sourceSessionId : UInt16)
    (sourceAddr targetAddr : SocketAddr) (keepAliveTimeout now : Nat) : Except Error UInt16 × Sessions :=
  let data := SessionData.new (some targetNodeId)
    (.relay ⟨sourceSessionId, sourceAddr, 0, targetAddr⟩) keepAliveTimeout now
  match s.nextId with
  | (none, s) => (.error .outOfSessions, s)
  | (some id, s) => (.ok id, s.insert id data)

/-- The first loop of `clean_sessions` over the listed ids. An expired Direct session with a
transporter loses its handle; expired Relay sessions and expired Direct sessions without
one are collected. `duration_since(..).unwrap()` panics on a session active after `now`,
with the handles dropped so far staying dropped. -/
def cleanLoop (now : Nat) : List UInt16 → Sessions → List UInt16 → Sessions × List UInt16 × Option Panic
  | [], s, done => (s, done, none)
  | id :: ids, s, done =>
    match s.map.lookup id with
    | none => cleanLoop now ids s done
    | some data =>
      if now < data.lastActivity then (s, done, some .unwrapFailed)
      else if data.keepAliveTimeout ≤ now - data.lastActivity then
        match data.transportData with
        | .empty => cleanLoop now ids s done
        | .direct d =>
          if d.handle.isSome then
            cleanLoop now ids (s.insert id { data with transportData := .direct { d with handle := none } }) done
          else cleanLoop now ids s (done ++ [id])
        | .relay _ => cleanLoop now ids s (done ++ [id])
      else cleanLoop now ids s done

/-- `Server::clean_sessions` at time `now`, with the panic of its first loop if any. -/
def cleanSessions (s : Sessions) (now : Nat) : Sessions × Option Panic :=
  match cleanLoop now s.map.keys s [] with
  | (s, done, none) => (done.foldl remove s, none)
  | (s, _, some p) => (s, some p)

/-- `should_close` of `process_crypted_packet`: handing the packet on failed, which
`sendFails` reports. A relay hands on only packets from one of its two ends, and a session
without transport data drops the packet. -/
def shouldClose (sender : SocketAddr) (sendFails : Bool) : SessionTransportData → Bool
  | .direct _ => sendFails
  | .relay r => (sender == r.sourceAddr || sender == r.targetAddr) && sendFails
  | .empty => false

/-- The table side of `process_crypted_packet` for a packet to `sessionId` from `sender`: the
session's activity is refreshed, and the session is removed when it should close. -/
def receiveCrypted (s : Sessions) (sessionId : UInt16) (sender : SocketAddr) (now : Nat)
    (sendFails : Bool) : Sessions :=
  match s.map.lookup sessionId with
  | none => s
  | some data =>
    let s := s.insert sessionId { data with lastActivity := now }
    if shouldClose sender sendFails data.transportData then s.remove sessionId else s

/-- Changes the Direct data of a session in place, as `connect_with_timeout`,
`_process_hello_packet` and `process_hello_ack_packet` do; on any other variant the source
panics and the table is unchanged. -/
def updateDirect (s : Sessions) (sessionId : UInt16)
    (f : SessionTransportDataDirect → SessionTransportDataDirect) : Sessions :=
  match s.map.lookup sessionId with
  | some data =>
    match data.transportData with
    | .direct d => s.insert sessionId { data with transportData := .direct (f d) }
    | _ => s
  | none => s

/-- `process_relayed_hello_ack_packet` records the target's session id in a relay session. -/
def setTargetSessionId (s : Sessions) (sessionId targetSessionId : UInt16) : Sessions :=
  match s.map.lookup sessionId with
  | some data =>
    match data.transportData with
    | .relay r => s.insert sessionId { data with transportData := .relay { r with targetSessionId := targetSessionId } }
    | _ => s
  | none => s

/-- `_process_hello_packet` refreshes the activity of a session it reuses. -/
def touch (s : Sessions) (sessionId : UInt16) (now : Nat) : Sessions :=
  match s.map.lookup sessionId with
  | some data => s.insert sessionId { data with lastActivity := now }
  | none => s

end Sessions

/-- The critical sections over `sessions`, with the arguments their callers pass: an
outgoing session is always the Direct data `connect_with_timeout` or `relay_with_timeout`
builds, with no peer session ids yet. -/
inductive SessionOp where
  | outgoing (theirNodeId relayNodeId : Option IdType) (helloChannel packetProcessor : ChannelId)
      (timeout now : Nat)
  | incomming (theirNodeId : IdType) (destSessionId encryptSessionId : UInt16)
      (packetProcessor : ChannelId) (timeout now : Nat)
  | relay (targetNodeId : IdType) (sourceSessionId : UInt16) (sourceAddr targetAddr : SocketAddr)
      (timeout now : Nat)
  | clean (now : Nat)
  | crypted (sessionId : UInt16) (sender : SocketAddr) (now : Nat) (sendFails : Bool)
  | setNextSessionId (id : UInt16)
  | installHandle (sessionId : UInt16) (handle : TransporterHandle)
  | takeHelloChannel (sessionId : UInt16)
  | setTargetSessionId (sessionId targetSessionId : UInt16)
  | touch (sessionId : UInt16) (now : Nat)

/-- The Direct data `connect_with_timeout` and `relay_with_timeout` create. -/
def outgoingData (relayNodeId : Option IdType) (helloChannel packetProcessor : ChannelId) :
    SessionTransportData :=
  .direct ⟨none, none, some helloChannel, relayNodeId, none, packetProcessor⟩

def SessionOp.apply (s : Sessions) : SessionOp → Sessions
  | .outgoing theirNodeId relayNodeId helloChannel packetProcessor timeout now =>
    (s.newOutgoingSession theirNodeId (outgoingData relayNodeId helloChannel packetProcessor) timeout now).2
  | .incomming theirNodeId destSessionId encryptSessionId packetProcessor timeout now =>
    (s.newIncommingSession theirNodeId destSessionId encryptSessionId packetProcessor timeout now).2
  | .relay targetNodeId sourceSessionId sourceAddr targetAddr timeout now =>
    (s.newRelaySession targetNodeId sourceSessionId sourceAddr targetAddr timeout now).2
  | .clean now => (s.cleanSessions now).1
  | .crypted sessionId sender now sendFails => s.receiveCrypted sessionId sender now sendFails
  | .setNextSessionId id => { s with cursor := id }
  | .installHandle sessionId handle => s.updateDirect sessionId fun d => { d with handle := some handle }
  | .takeHelloChannel sessionId => s.updateDirect sessionId fun d => { d with helloChannel := none }
  | .setTargetSessionId sessionId targetSessionId => s.setTargetSessionId sessionId targetSessionId
  | .touch sessionId now => s.touch sessionId now

/-- The table after a run of critical sections. -/
def runOps (ops : List SessionOp) (s : Sessions) : Sessions := ops.foldl SessionOp.apply s

namespace Sessions

variable {s s' : Sessions} {id k : UInt16} {data : SessionData}

@[simp] theorem lookup_insert_self : (s.insert id data).map.lookup id = some data :=
  AList.lookup_insert _

@[simp] theorem lookup_insert_other (other : k ≠ id) : (s.insert id data).map.lookup k = s.map.lookup k :=
  AList.lookup_insert_ne other

@[simp] theorem lookup_remove_self : (s.remove id).map.lookup id = none :=
  AList.lookup_erase _ _

@[simp] theorem lookup_remove_other (other : k ≠ id) : (s.remove id).map.lookup k = s.map.lookup k :=
  AList.lookup_erase_ne other

theorem probe_some_free {map : AList (fun _ : UInt16 => SessionData)} {budget : Nat}
    {cursor cursor' : UInt16} (h : probe map budget cursor = (some id, cursor')) :
    map.lookup id = none := by
  induction budget generalizing cursor with
  | zero => simp [probe] at h
  | succ budget ih =>
    simp only [probe] at h
    split at h
    · split at h
      · simp at h
      · exact ih h
    · next free =>
      simp only [Prod.mk.injEq,Option.some.injEq] at h
      rw [← h.1]
      simpa using free

@[simp] theorem nextId_map : s.nextId.2.map = s.map := rfl

/-- `next_id` moves only the cursor. -/
theorem map_of_nextId {o : Option UInt16} {t : Sessions} (allocated : s.nextId = (o, t)) :
    t.map = s.map :=
  (congrArg (fun r : Option UInt16 × Sessions => r.2.map) allocated).symm

/-- `next_id` only hands out an id that is not a key. -/
theorem nextId_free (h : s.nextId.1 = some id) : s.map.lookup id = none := by
  exact probe_some_free (Prod.ext h rfl : probe s.map 0xFFFF s.cursor = (some id, _))

theorem add_ofNat_succ (c : UInt16) (k : Nat) : c + UInt16.ofNat (k + 1) = c + 1 + UInt16.ofNat k := by
  apply UInt16.eq_of_toBitVec_eq
  show c.toBitVec + BitVec.ofNat 16 (k + 1) = c.toBitVec + BitVec.ofNat 16 1 + BitVec.ofNat 16 k
  apply BitVec.eq_of_toNat_eq
  simp only [BitVec.toNat_add,BitVec.toNat_ofNat]
  omega

theorem add_ofNat_zero (c : UInt16) : c + UInt16.ofNat 0 = c := UInt16.eq_of_toBitVec_eq (BitVec.add_zero _)

theorem probe_some_cursor {map : AList (fun _ : UInt16 => SessionData)} {budget : Nat}
    {cursor cursor' id : UInt16} (h : probe map budget cursor = (some id, cursor')) : cursor' = id + 1 := by
  induction budget generalizing cursor with
  | zero => simp [probe] at h
  | succ budget ih =>
    simp only [probe] at h
    split at h
    · split at h
      · simp at h
      · exact ih h
    · simp only [Prod.mk.injEq,Option.some.injEq] at h
      rw [← h.1,h.2]

/-- The probe loop gives up exactly when every one of the `budget` ids from the cursor on is
a key. -/
theorem probe_none_iff {map : AList (fun _ : UInt16 => SessionData)} {budget : Nat} {cursor : UInt16} :
    (probe map budget cursor).1 = none ↔ ∀ k < budget, (map.lookup (cursor + UInt16.ofNat k)).isSome := by
  induction budget generalizing cursor with
  | zero => simp [probe]
  | succ budget ih =>
    have gaveUp : (if budget = 0 then ((none : Option UInt16), cursor + 1) else probe map budget (cursor + 1)).1 =
        (probe map budget (cursor + 1)).1 := by
      split
      · subst budget; rfl
      · rfl
    simp only [probe]
    rw [Nat.forall_lt_succ_left,add_ofNat_zero]
    split
    · next taken =>
      rw [gaveUp,ih,eq_true taken,true_and]
      exact forall_congr' fun k => imp_congr_right fun _ => by rw [add_ofNat_succ]
    · next free => simp only [free,reduceCtorEq,false_and]

/-- `next_id` reports the table full exactly when the 0xFFFF ids from the cursor on are all
keys. -/
theorem nextId_none_iff :
    s.nextId.1 = none ↔ ∀ k < 0xFFFF, (s.map.lookup (s.cursor + UInt16.ofNat k)).isSome :=
  probe_none_iff

/-- The id `next_id` hands out is free, the cursor moves just past it and the map is untouched. -/
theorem nextId_some {id : UInt16} {t : Sessions} (allocated : s.nextId = (some id, t)) :
    s.map.lookup id = none ∧ t.cursor = id + 1 ∧ t.map = s.map := by
  refine ⟨nextId_free (by rw [allocated]), ?_, map_of_nextId allocated⟩
  have probed : probe s.map 0xFFFF s.cursor = (some id, t.cursor) :=
    congrArg (fun r : Option UInt16 × Sessions => (r.1, r.2.cursor)) allocated
  exact probe_some_cursor probed

/-- `next_id` probes 0xFFFF ids, one short of the id space: on a table where every id but the
one just below the cursor is a key, it reports the table full. -/
theorem nextId_misses_last_free (s : Sessions) (taken : ∀ k, k ≠ s.cursor - 1 → (s.map.lookup k).isSome) :
    s.nextId.1 = none := by
  refine nextId_none_iff.mpr fun k below => taken _ fun same => ?_
  have wrapped := congrArg (fun x : UInt16 => x.toBitVec.toNat) same
  simp only [UInt16.add_def,UInt16.sub_def,BitVec.toNat_add,BitVec.toNat_sub] at wrapped
  change (s.cursor.toBitVec.toNat + (BitVec.ofNat 16 k).toNat) % 2 ^ 16 =
    (2 ^ 16 - (BitVec.ofNat 16 1).toNat + s.cursor.toBitVec.toNat) % 2 ^ 16 at wrapped
  simp only [BitVec.toNat_ofNat] at wrapped
  have := s.cursor.toBitVec.isLt
  omega

theorem lookup_foldl_insert (ids : List UInt16) (data : SessionData) (t : Sessions) (k : UInt16) :
    (ids.foldl (fun t id => t.insert id data) t).map.lookup k = if k ∈ ids then some data else t.map.lookup k := by
  induction ids generalizing t with
  | nil => simp
  | cons id ids ih =>
    rw [List.foldl_cons,ih]
    by_cases here : k = id
    · subst here; simp [lookup_insert_self]
    · simp [here,lookup_insert_other here]

theorem cursor_foldl_insert (ids : List UInt16) (data : SessionData) (t : Sessions) :
    (ids.foldl (fun t id => t.insert id data) t).cursor = t.cursor := by
  induction ids generalizing t with
  | nil => rfl
  | cons id ids ih => exact ih _

theorem mem_range_ofNat {k : UInt16} : k ∈ (List.range 0xFFFF).map UInt16.ofNat ↔ k.toNat < 0xFFFF := by
  simp only [List.mem_map,List.mem_range]
  constructor
  · rintro ⟨n, below, rfl⟩
    rwa [UInt16.toNat_ofNat_of_lt (by simp only [UInt16.size]; omega)]
  · exact fun below => ⟨k.toNat, below, UInt16.toNat.inj (UInt16.toNat_ofNat_of_lt k.toNat_lt_size)⟩

/-- A table holding every id but 0xFFFF, with the cursor at 0. -/
def allButLast : Sessions :=
  ((List.range 0xFFFF).map UInt16.ofNat).foldl (fun t id => t.insert id (.new none .empty 0 0)) Sessions.new

theorem allButLast_misses_last_free :
    (∀ k, k ≠ allButLast.cursor - 1 → (allButLast.map.lookup k).isSome) ∧
      allButLast.map.lookup 0xFFFF = none ∧ allButLast.nextId.1 = none := by
  have cursor : allButLast.cursor = 0 := cursor_foldl_insert _ _ _
  have taken : ∀ k, k ≠ allButLast.cursor - 1 → (allButLast.map.lookup k).isSome := by
    intro k other
    rw [cursor] at other
    have below : k.toNat < 0xFFFF := by
      have := k.toNat_lt_size
      have : k.toNat ≠ 0xFFFF := fun last => other (UInt16.toNat.inj (by rw [last]; rfl))
      simp only [UInt16.size] at *; omega
    simp only [allButLast,lookup_foldl_insert,mem_range_ofNat.mpr below,if_true,Option.isSome_some]
  refine ⟨taken, ?_, nextId_misses_last_free _ taken⟩
  simp only [allButLast,lookup_foldl_insert,mem_range_ofNat]
  rfl

theorem isTheirSession_iff (n : IdType) (sid : UInt16) (d : SessionData) :
    isTheirSession n sid d = true ↔ d.directPair = some (n, sid) := by
  rcases d with ⟨their, _, transport, _⟩
  cases transport with
  | direct t =>
    cases their <;> cases dest : t.destSessionId <;>
      simp [isTheirSession,SessionData.directPair,dest]
  | _ => cases their <;> simp [isTheirSession,SessionData.directPair]

theorem findTheirSession_some {n : IdType} {sid : UInt16} (h : s.findTheirSession n sid = some k) :
    ∃ d, s.map.lookup k = some d ∧ d.directPair = some (n, sid) := by
  obtain ⟨e, found, rfl⟩ := Option.map_eq_some'.mp h
  have matched := List.find?_some found
  exact ⟨e.2, AList.mem_lookup_iff.mpr (List.mem_of_find?_eq_some found),
    (isTheirSession_iff _ _ _).mp matched⟩

theorem findTheirSession_none {n : IdType} {sid : UInt16} (h : s.findTheirSession n sid = none)
    (found : s.map.lookup k = some data) : data.directPair ≠ some (n, sid) := by
  intro pair
  have := List.find?_eq_none.mp (Option.map_eq_none'.mp h) ⟨k, data⟩ (AList.mem_lookup_iff.mp found)
  exact this ((isTheirSession_iff _ _ _).mpr pair)

end Sessions

/-- No two Direct sessions answer to the same `(their_node_id, dest_session_id)`. -/
def DirectPairsUnique (s : Sessions) : Prop :=
  ∀ a b da db p, s.map.lookup a = some da → s.map.lookup b = some db →
    da.directPair = some p → db.directPair = some p → a = b

/-- A creation that succeeds with `id` puts `data` under a key that was free and leaves every
other entry as it was. -/
def InsertsFresh (s s' : Sessions) (id : UInt16) (data : SessionData) : Prop :=
  s.map.lookup id = none ∧ s'.map.lookup id = some data ∧
    ∀ k, k ≠ id → s'.map.lookup k = s.map.lookup k

namespace DirectPairsUnique

open Sessions

variable {s : Sessions} {id : UInt16} {data : SessionData}

theorem new : DirectPairsUnique Sessions.new := by
  intro a _ _ _ _ found
  simp [Sessions.new] at found

theorem insert (valid : DirectPairsUnique s)
    (fresh : ∀ k d p, k ≠ id → s.map.lookup k = some d → d.directPair = some p →
      data.directPair ≠ some p) :
    DirectPairsUnique (s.insert id data) := by
  intro a b da db p ha hb pa pb
  by_cases ai : a = id <;> by_cases bi : b = id
  · rw [ai,bi]
  · subst ai
    simp only [lookup_insert_self,Option.some.injEq] at ha
    subst ha
    exact absurd pa (fresh b db p bi (by simpa [bi] using hb) pb)
  · subst bi
    simp only [lookup_insert_self,Option.some.injEq] at hb
    subst hb
    exact absurd pb (fresh a da p ai (by simpa [ai] using ha) pa)
  · exact valid a b da db p (by simpa [ai] using ha) (by simpa [bi] using hb) pa pb

theorem insert_unpaired (valid : DirectPairsUnique s) (unpaired : data.directPair = none) :
    DirectPairsUnique (s.insert id data) :=
  valid.insert fun _ _ _ _ _ _ => by simp [unpaired]

/-- Rewriting a session in place keeps uniqueness when its pair does not change. -/
theorem replace (valid : DirectPairsUnique s) {old : SessionData} (found : s.map.lookup id = some old)
    (same : data.directPair = old.directPair) : DirectPairsUnique (s.insert id data) :=
  valid.insert fun k d p other hk pk pair =>
    other (valid k id d old p hk found pk (same ▸ pair))

theorem remove (valid : DirectPairsUnique s) (id : UInt16) : DirectPairsUnique (s.remove id) := by
  intro a b da db p ha hb pa pb
  by_cases ai : a = id
  · subst ai; simp at ha
  by_cases bi : b = id
  · subst bi; simp at hb
  exact valid a b da db p (by simpa [ai] using ha) (by simpa [bi] using hb) pa pb

/-- Uniqueness is a property of the map alone. -/
theorem ofMap {t : Sessions} (valid : DirectPairsUnique s) (same : t.map = s.map) :
    DirectPairsUnique t := by
  unfold DirectPairsUnique; rw [same]; exact valid

theorem removeAll (valid : DirectPairsUnique s) (ids : List UInt16) :
    DirectPairsUnique (ids.foldl Sessions.remove s) := by
  induction ids generalizing s with
  | nil => exact valid
  | cons id ids ih => exact ih (valid.remove id)

theorem cleanLoop {now : Nat} {ids done : List UInt16} (valid : DirectPairsUnique s) :
    DirectPairsUnique (Sessions.cleanLoop now ids s done).1 := by
  induction ids generalizing s done with
  | nil => exact valid
  | cons id ids ih =>
    unfold Sessions.cleanLoop
    split
    · exact ih valid
    · next data found =>
      split
      · exact valid
      · split
        · split
          · exact ih valid
          · next d transport =>
            split
            · exact ih (valid.replace found (by simp [SessionData.directPair,transport]))
            · exact ih valid
          · exact ih valid
        · exact ih valid

theorem cleanSessions (valid : DirectPairsUnique s) (now : Nat) :
    DirectPairsUnique (s.cleanSessions now).1 := by
  unfold Sessions.cleanSessions
  have looped : DirectPairsUnique (Sessions.cleanLoop now s.map.keys s []).1 := valid.cleanLoop
  rcases result : Sessions.cleanLoop now s.map.keys s [] with ⟨cleaned, done, _ | _⟩ <;>
    rw [result] at looped <;> dsimp only
  · exact looped.removeAll done
  · exact looped

theorem receiveCrypted (valid : DirectPairsUnique s) (sessionId : UInt16) (sender : SocketAddr)
    (now : Nat) (sendFails : Bool) : DirectPairsUnique (s.receiveCrypted sessionId sender now sendFails) := by
  unfold Sessions.receiveCrypted
  split
  · exact valid
  · next data found =>
    have touched : DirectPairsUnique (s.insert sessionId { data with lastActivity := now }) :=
      valid.replace found rfl
    split
    · exact touched.remove sessionId
    · exact touched

theorem updateDirect (valid : DirectPairsUnique s) (sessionId : UInt16)
    {f : SessionTransportDataDirect → SessionTransportDataDirect}
    (keeps : ∀ d, (f d).destSessionId = d.destSessionId) :
    DirectPairsUnique (s.updateDirect sessionId f) := by
  unfold Sessions.updateDirect
  split
  · next data found =>
    split
    · next d transport => exact valid.replace found (by simp [SessionData.directPair,transport,keeps])
    · exact valid
  · exact valid

theorem setTargetSessionId (valid : DirectPairsUnique s) (sessionId targetSessionId : UInt16) :
    DirectPairsUnique (s.setTargetSessionId sessionId targetSessionId) := by
  unfold Sessions.setTargetSessionId
  split
  · next data found =>
    split
    · next r transport => exact valid.replace found (by simp [SessionData.directPair,transport])
    · exact valid
  · exact valid

theorem touch (valid : DirectPairsUnique s) (sessionId : UInt16) (now : Nat) :
    DirectPairsUnique (s.touch sessionId now) := by
  unfold Sessions.touch
  split
  · next data found => exact valid.replace found rfl
  · exact valid

theorem newIncommingSession (valid : DirectPairsUnique s) (theirNodeId : IdType)
    (destSessionId encryptSessionId : UInt16) (packetSender : ChannelId) (timeout now : Nat) :
    DirectPairsUnique
      (s.newIncommingSession theirNodeId destSessionId encryptSessionId packetSender timeout now).2 := by
  unfold Sessions.newIncommingSession
  split
  · exact valid
  · next missing =>
    rcases allocated : s.nextId with ⟨_ | id, t⟩ <;> dsimp only
    all_goals have same := map_of_nextId allocated
    · exact valid.ofMap same
    · refine (valid.ofMap same).insert fun k d p _ found pair fresh => ?_
      simp only [SessionData.new,SessionData.directPair,Option.some_bind,Option.map_some',
        Option.some.injEq] at fresh
      subst fresh
      exact findTheirSession_none missing (same ▸ found) pair

theorem newOutgoingSession (valid : DirectPairsUnique s) {theirNodeId : Option IdType}
    {transportData : SessionTransportData} {timeout now : Nat}
    (unpaired : (SessionData.new theirNodeId transportData timeout now).directPair = none) :
    DirectPairsUnique (s.newOutgoingSession theirNodeId transportData timeout now).2 := by
  unfold Sessions.newOutgoingSession
  rcases allocated : s.nextId with ⟨_ | id, t⟩ <;> dsimp only
  all_goals have same := map_of_nextId allocated
  · exact valid.ofMap same
  · exact (valid.ofMap same).insert_unpaired unpaired

theorem newRelaySession (valid : DirectPairsUnique s) (targetNodeId : IdType) (sourceSessionId : UInt16)
    (sourceAddr targetAddr : SocketAddr) (timeout now : Nat) :
    DirectPairsUnique (s.newRelaySession targetNodeId sourceSessionId sourceAddr targetAddr timeout now).2 := by
  unfold Sessions.newRelaySession
  rcases allocated : s.nextId with ⟨_ | id, t⟩ <;> dsimp only
  all_goals have same := map_of_nextId allocated
  · exact valid.ofMap same
  · exact (valid.ofMap same).insert_unpaired rfl

end DirectPairsUnique

namespace Sessions

variable {s s' t : Sessions} {id : UInt16}

theorem insertsFresh_of_nextId {data : SessionData} (allocated : s.nextId = (some id, t)) :
    InsertsFresh s (t.insert id data) id data := by
  have free := nextId_free (by rw [allocated] : s.nextId.1 = some id)
  have same := map_of_nextId allocated
  exact ⟨free, lookup_insert_self, fun k other => by rw [lookup_insert_other other,same]⟩

theorem newOutgoingSession_inserts_fresh {theirNodeId : Option IdType}
    {transportData : SessionTransportData} {timeout now : Nat}
    (created : s.newOutgoingSession theirNodeId transportData timeout now = (some id, s')) :
    InsertsFresh s s' id (.new theirNodeId transportData timeout now) := by
  unfold newOutgoingSession at created
  split at created
  · cases created
  · next id' t allocated =>
    simp only [Prod.mk.injEq,Option.some.injEq] at created
    obtain ⟨rfl, rfl⟩ := created
    exact insertsFresh_of_nextId allocated

theorem newIncommingSession_inserts_fresh {theirNodeId : IdType}
    {destSessionId encryptSessionId : UInt16} {packetSender : ChannelId} {timeout now : Nat}
    (created : s.newIncommingSession theirNodeId destSessionId encryptSessionId packetSender timeout now =
      (.ok (id, true), s')) :
    InsertsFresh s s' id (.new (some theirNodeId)
      (.direct ⟨some destSessionId, some encryptSessionId, none, none, none, packetSender⟩) timeout now) := by
  unfold newIncommingSession at created
  split at created
  · simp at created
  · split at created
    · simp at created
    · next id' t allocated =>
      simp only [Prod.mk.injEq,Except.ok.injEq] at created
      obtain ⟨⟨rfl, -⟩, rfl⟩ := created
      exact insertsFresh_of_nextId allocated

theorem newRelaySession_inserts_fresh {targetNodeId : IdType} {sourceSessionId : UInt16}
    {sourceAddr targetAddr : SocketAddr} {timeout now : Nat}
    (created : s.newRelaySession targetNodeId sourceSessionId sourceAddr targetAddr timeout now =
      (.ok id, s')) :
    InsertsFresh s s' id (.new (some targetNodeId) (.relay ⟨sourceSessionId, sourceAddr, 0, targetAddr⟩)
      timeout now) := by
  unfold newRelaySession at created
  split at created
  · simp at created
  · next id' t allocated =>
    simp only [Prod.mk.injEq,Except.ok.injEq] at created
    obtain ⟨rfl, rfl⟩ := created
    exact insertsFresh_of_nextId allocated

/-- A handshake for a pair some Direct session already answers to gets that session back,
with `is_new = false` and the table untouched. -/
theorem newIncommingSession_reuses (valid : DirectPairsUnique s) {theirNodeId : IdType}
    {destSessionId : UInt16} {k : UInt16} {data : SessionData} (found : s.map.lookup k = some data)
    (pair : data.directPair = some (theirNodeId, destSessionId)) (encryptSessionId : UInt16)
    (packetSender : ChannelId) (timeout now : Nat) :
    s.newIncommingSession theirNodeId destSessionId encryptSessionId packetSender timeout now =
      (.ok (k, false), s) := by
  unfold newIncommingSession
  cases lookedUp : s.findTheirSession theirNodeId destSessionId with
  | none => exact absurd pair (findTheirSession_none lookedUp found)
  | some k' =>
    obtain ⟨d, found', pair'⟩ := findTheirSession_some lookedUp
    rw [valid k' k d data _ found' found pair' pair]

end Sessions

/-- Session `k` is the Direct session for `pair`. -/
def Sessions.AnswersPair (s : Sessions) (k : UInt16) (pair : IdType × UInt16) : Prop :=
  ∃ data, s.map.lookup k = some data ∧ data.directPair = some pair

/-- Every session of `s` is still in `t` under its key, for the same pair. -/
def KeepsPairs (s t : Sessions) : Prop :=
  ∀ k data, s.map.lookup k = some data → ∃ data', t.map.lookup k = some data' ∧ data'.directPair = data.directPair

namespace KeepsPairs

open Sessions

variable {s t u : Sessions} {id : UInt16} {data : SessionData}

theorem refl (s : Sessions) : KeepsPairs s s := fun _ data found => ⟨data, found, rfl⟩

theorem trans (first : KeepsPairs s t) (second : KeepsPairs t u) : KeepsPairs s u := fun k _ found =>
  let ⟨_, found', same⟩ := first k _ found
  let ⟨d, found'', same'⟩ := second k _ found'
  ⟨d, found'', same'.trans same⟩

theorem answersPair (keeps : KeepsPairs s t) {k : UInt16} {pair : IdType × UInt16} :
    s.AnswersPair k pair → t.AnswersPair k pair
  | ⟨_, found, answers⟩ => let ⟨d, found', same⟩ := keeps k _ found; ⟨d, found', same.trans answers⟩

theorem ofMap (same : t.map = s.map) : KeepsPairs s t := fun _ data found => ⟨data, same ▸ found, rfl⟩

/-- Rewriting a session in place keeps every pair when its own does not change. -/
theorem replace {old : SessionData} (found : s.map.lookup id = some old) (same : data.directPair = old.directPair) :
    KeepsPairs s (s.insert id data) := by
  intro k d found'
  by_cases here : k = id
  · subst here
    obtain rfl := Option.some.inj (found'.symm.trans found)
    exact ⟨data, lookup_insert_self, same⟩
  · exact ⟨d, by rw [lookup_insert_other here,found'], rfl⟩

theorem insert_fresh (free : s.map.lookup id = none) : KeepsPairs s (s.insert id data) := by
  intro k d found
  have other : k ≠ id := by rintro rfl; simp [free] at found
  exact ⟨d, by rw [lookup_insert_other other,found], rfl⟩

theorem touch (s : Sessions) (sessionId : UInt16) (now : Nat) : KeepsPairs s (s.touch sessionId now) := by
  unfold Sessions.touch
  split
  · next data found => exact replace found rfl
  · exact refl s

theorem updateDirect (s : Sessions) (sessionId : UInt16)
    {f : SessionTransportDataDirect → SessionTransportDataDirect}
    (keeps : ∀ d, (f d).destSessionId = d.destSessionId) : KeepsPairs s (s.updateDirect sessionId f) := by
  unfold Sessions.updateDirect
  split
  · next data found =>
    split
    · next d transport => exact replace found (by simp [SessionData.directPair,transport,keeps])
    · exact refl s
  · exact refl s

theorem newIncommingSession (s : Sessions) (theirNodeId : IdType) (destSessionId encryptSessionId : UInt16)
    (packetSender : ChannelId) (timeout now : Nat) :
    KeepsPairs s (s.newIncommingSession theirNodeId destSessionId encryptSessionId packetSender timeout now).2 := by
  unfold Sessions.newIncommingSession
  split
  · exact refl s
  · rcases allocated : s.nextId with ⟨_ | id, t⟩ <;> dsimp only
    all_goals have same := map_of_nextId allocated
    · exact ofMap same
    · have free := nextId_free (by rw [allocated] : s.nextId.1 = some id)
      exact (ofMap same).trans (insert_fresh (by rw [same]; exact free))

end KeepsPairs

/-- Under uniqueness, a pair has at most one session. -/
theorem DirectPairsUnique.answersPair_eq {s : Sessions} (valid : DirectPairsUnique s) {k k' : UInt16}
    {pair : IdType × UInt16} : s.AnswersPair k pair → s.AnswersPair k' pair → k = k'
  | ⟨d, found, answers⟩, ⟨d', found', answers'⟩ => valid k k' d d' pair found found' answers answers'

/-- The session a successful `new_incomming_session` returns is the Direct one for the pair it
was asked about, found or created. -/
theorem Sessions.newIncommingSession_answers {s s' : Sessions} {theirNodeId : IdType}
    {destSessionId encryptSessionId : UInt16} {packetSender : ChannelId} {timeout now : Nat}
    {ourSessionId : UInt16} {isNew : Bool}
    (created : s.newIncommingSession theirNodeId destSessionId encryptSessionId packetSender timeout now =
      (.ok (ourSessionId, isNew), s')) :
    s'.AnswersPair ourSessionId (theirNodeId, destSessionId) := by
  unfold Sessions.newIncommingSession at created
  split at created
  · next found =>
    simp only [Prod.mk.injEq,Except.ok.injEq] at created
    obtain ⟨⟨rfl, -⟩, rfl⟩ := created
    exact findTheirSession_some found
  · split at created
    · simp at created
    · simp only [Prod.mk.injEq,Except.ok.injEq] at created
      obtain ⟨⟨rfl, -⟩, rfl⟩ := created
      exact ⟨_, lookup_insert_self, rfl⟩

theorem SessionOp.apply_unique {s : Sessions} (valid : DirectPairsUnique s) (op : SessionOp) :
    DirectPairsUnique (op.apply s) := by
  cases op with
  | outgoing => exact valid.newOutgoingSession (by simp [SessionData.new,SessionData.directPair,outgoingData])
  | incomming => exact valid.newIncommingSession _ _ _ _ _ _
  | relay => exact valid.newRelaySession _ _ _ _ _ _
  | clean now => exact valid.cleanSessions now
  | crypted => exact valid.receiveCrypted _ _ _ _
  | setNextSessionId => exact valid
  | installHandle => exact valid.updateDirect _ fun _ => rfl
  | takeHelloChannel => exact valid.updateDirect _ fun _ => rfl
  | setTargetSessionId => exact valid.setTargetSessionId _ _
  | touch => exact valid.touch _ _

theorem runOps_unique {s : Sessions} (valid : DirectPairsUnique s) (ops : List SessionOp) :
    DirectPairsUnique (runOps ops s) := by
  induction ops generalizing s with
  | nil => exact valid
  | cons op ops ih => exact ih (SessionOp.apply_unique valid op)

/-- Session-table integrity over every run from `Sessions::new`: no two Direct sessions share
a peer pair; a creation that succeeds takes a free id and touches no other entry; and a
handshake for a known pair returns that session unchanged. -/
theorem session_table_integrity (ops : List SessionOp) :
    let s := runOps ops Sessions.new
    DirectPairsUnique s ∧
    (∀ theirNodeId transportData timeout now id s',
      s.newOutgoingSession theirNodeId transportData timeout now = (some id, s') →
        InsertsFresh s s' id (.new theirNodeId transportData timeout now)) ∧
    (∀ theirNodeId destSessionId encryptSessionId packetSender timeout now id s',
      s.newIncommingSession theirNodeId destSessionId encryptSessionId packetSender timeout now =
          (.ok (id, true), s') →
        InsertsFresh s s' id (.new (some theirNodeId)
          (.direct ⟨some destSessionId, some encryptSessionId, none, none, none, packetSender⟩)
          timeout now)) ∧
    (∀ targetNodeId sourceSessionId sourceAddr targetAddr timeout now id s',
      s.newRelaySession targetNodeId sourceSessionId sourceAddr targetAddr timeout now = (.ok id, s') →
        InsertsFresh s s' id (.new (some targetNodeId)
          (.relay ⟨sourceSessionId, sourceAddr, 0, targetAddr⟩) timeout now)) ∧
    (∀ theirNodeId destSessionId encryptSessionId packetSender timeout now k data,
      s.map.lookup k = some data → data.directPair = some (theirNodeId, destSessionId) →
        s.newIncommingSession theirNodeId destSessionId encryptSessionId packetSender timeout now =
          (.ok (k, false), s)) := by
  have valid := runOps_unique DirectPairsUnique.new ops
  exact ⟨valid, fun _ _ _ _ _ _ => Sessions.newOutgoingSession_inserts_fresh,
    fun _ _ _ _ _ _ _ _ => Sessions.newIncommingSession_inserts_fresh,
    fun _ _ _ _ _ _ _ _ => Sessions.newRelaySession_inserts_fresh,
    fun _ _ e p t n _ _ found pair => Sessions.newIncommingSession_reuses valid found pair e p t n⟩

/-- What `clean_sessions` is to leave of a session at time `now`: an expired Relay session, or
an expired Direct one without a transporter, is removed; an expired Direct session with one loses
its handle and nothing else; every other session stays as it is. -/
def cleanedSession (now : Nat) (data : SessionData) : Option SessionData :=
  if data.keepAliveTimeout ≤ now - data.lastActivity then
    match data.transportData with
    | .direct d =>
      if d.handle.isSome then some { data with transportData := .direct { d with handle := none } } else none
    | .relay _ => none
    | .empty => some data
  else some data

namespace Sessions

variable {now : Nat} {s : Sessions}

/-- The first loop leaves a session's last activity as it was. -/
theorem lastActivity_getD_cleanedSession (data : SessionData) :
    ((cleanedSession now data).getD data).lastActivity = data.lastActivity := by
  unfold cleanedSession
  split
  · split
    · split <;> rfl
    all_goals rfl
  · rfl

/-- One turn of the first loop of `clean_sessions`, on a table none of whose sessions was
active after `now`: the session under `id` is left as `cleanedSession` leaves it, or collected
when `cleanedSession` removes it. -/
theorem cleanLoop_cons (settled : ∀ k d, s.map.lookup k = some d → d.lastActivity ≤ now)
    (id : UInt16) (ids done : List UInt16) : ∃ t,
      cleanLoop now (id :: ids) s done = cleanLoop now ids t
        (if (s.map.lookup id).any (fun d => (cleanedSession now d).isNone) then done ++ [id] else done) ∧
      t.cursor = s.cursor ∧
      ∀ k, t.map.lookup k =
        if k = id then (s.map.lookup k).map (fun d => (cleanedSession now d).getD d) else s.map.lookup k := by
  rcases found : s.map.lookup id with _ | data
  · refine ⟨s, by simp only [cleanLoop,found]; rfl, rfl, fun k => ?_⟩
    split
    · next here => subst here; rw [found]; rfl
    · rfl
  have early : ¬ now < data.lastActivity := Nat.not_lt.mpr (settled id data found)
  -- the turns that leave the table as it is
  have kept : (cleanedSession now data).getD data = data →
      ∀ k, s.map.lookup k = if k = id then (s.map.lookup k).map (fun d => (cleanedSession now d).getD d)
        else s.map.lookup k := by
    intro same k
    split
    · next here => subst here; rw [found,Option.map_some',same]
    · rfl
  by_cases expired : data.keepAliveTimeout ≤ now - data.lastActivity
  · rcases transport : data.transportData with _ | d | r
    · exact ⟨s, by simp [cleanLoop,cleanedSession,found,early,expired,transport], rfl,
        kept (by simp [cleanedSession,expired,transport])⟩
    · cases handle : d.handle
      · exact ⟨s, by simp [cleanLoop,cleanedSession,found,early,expired,transport,handle], rfl,
          kept (by simp [cleanedSession,expired,transport,handle])⟩
      · refine ⟨s.insert id { data with transportData := .direct { d with handle := none } },
          by simp [cleanLoop,cleanedSession,found,early,expired,transport,handle], rfl, fun k => ?_⟩
        split
        · next here => subst here; simp [found,cleanedSession,expired,transport,handle]
        · next other => exact lookup_insert_other other
    · exact ⟨s, by simp [cleanLoop,cleanedSession,found,early,expired,transport], rfl,
        kept (by simp [cleanedSession,expired,transport])⟩
  · exact ⟨s, by simp [cleanLoop,cleanedSession,found,early,expired], rfl,
      kept (by simp [cleanedSession,expired])⟩

/-- The first loop of `clean_sessions` over distinct ids, on a table none of whose sessions was
active after `now`: it does not panic, collects the listed sessions `cleanedSession` removes, and
leaves every other listed session as `cleanedSession` leaves it. -/
theorem cleanLoop_spec {ids : List UInt16} (nodup : ids.Nodup)
    (settled : ∀ k d, s.map.lookup k = some d → d.lastActivity ≤ now) (done : List UInt16) : ∃ t,
      cleanLoop now ids s done =
        (t, done ++ ids.filter (fun id => (s.map.lookup id).any (fun d => (cleanedSession now d).isNone)), none) ∧
      t.cursor = s.cursor ∧
      ∀ k, t.map.lookup k =
        if k ∈ ids then (s.map.lookup k).map (fun d => (cleanedSession now d).getD d) else s.map.lookup k := by
  induction ids generalizing s done with
  | nil => exact ⟨s, by simp [cleanLoop], rfl, fun k => by simp⟩
  | cons id ids ih =>
    obtain ⟨fresh, nodup⟩ := List.nodup_cons.mp nodup
    obtain ⟨t, turn, cursor, lookup⟩ := cleanLoop_cons settled id ids done
    have elsewhere : ∀ k ∈ ids, t.map.lookup k = s.map.lookup k := fun k mem =>
      (lookup k).trans (if_neg fun (here : k = id) => fresh (here ▸ mem))
    have settled' : ∀ k d, t.map.lookup k = some d → d.lastActivity ≤ now := by
      intro k d found
      rw [lookup k] at found
      split at found
      · obtain ⟨d₀, found₀, rfl⟩ := Option.map_eq_some'.mp found
        rw [lastActivity_getD_cleanedSession]
        exact settled k d₀ found₀
      · exact settled k d found
    obtain ⟨u, run, cursor', lookup'⟩ := ih nodup settled' _
    refine ⟨u, ?_, cursor'.trans cursor, fun k => ?_⟩
    · have collected : ids.filter (fun id => (t.map.lookup id).any (fun d => (cleanedSession now d).isNone)) =
          ids.filter (fun id => (s.map.lookup id).any (fun d => (cleanedSession now d).isNone)) :=
        List.filter_congr fun k mem => by rw [elsewhere k mem]
      rw [turn,run,collected,List.filter_cons]
      split <;> simp
    · rw [lookup']
      by_cases here : k = id
      · subst here; simp [fresh,lookup]
      · simp [here,lookup]

theorem lookup_foldl_remove (ids : List UInt16) (t : Sessions) (k : UInt16) :
    (ids.foldl remove t).map.lookup k = if k ∈ ids then none else t.map.lookup k := by
  induction ids generalizing t with
  | nil => simp
  | cons id ids ih =>
    rw [List.foldl_cons,ih]
    by_cases here : k = id
    · subst here; simp
    · simp [here]

theorem cursor_foldl_remove (ids : List UInt16) (t : Sessions) : (ids.foldl remove t).cursor = t.cursor := by
  induction ids generalizing t with
  | nil => rfl
  | cons id ids ih => exact ih _

/-- `Server::clean_sessions` at a time no earlier than any session's last activity: its first
loop does not panic, each `remove(..).unwrap()` of its second loop finds its id still there, the
cursor stays, and every session ends up as `cleanedSession` says. -/
theorem cleanSessions_cleans_expired (s : Sessions) (now : Nat)
    (settled : ∀ k d, s.map.lookup k = some d → d.lastActivity ≤ now) :
    (cleanLoop now s.map.keys s []).2.2 = none ∧
    (∀ pre id post, (cleanLoop now s.map.keys s []).2.1 = pre ++ id :: post →
      ((pre.foldl remove (cleanLoop now s.map.keys s []).1).map.lookup id).isSome) ∧
    (s.cleanSessions now).2 = none ∧ (s.cleanSessions now).1.cursor = s.cursor ∧
    ∀ k, (s.cleanSessions now).1.map.lookup k = (s.map.lookup k).bind (cleanedSession now) := by
  obtain ⟨t, loop, cursor, lookup⟩ := cleanLoop_spec s.map.keys_nodup settled []
  set collected := s.map.keys.filter fun id => (s.map.lookup id).any (fun d => (cleanedSession now d).isNone)
  have key : ∀ {k}, k ∈ s.map.keys ↔ (s.map.lookup k).isSome := AList.mem_keys.symm.trans AList.lookup_isSome.symm
  have mem_collected : ∀ {k}, k ∈ collected ↔ ∃ d, s.map.lookup k = some d ∧ cleanedSession now d = none := by
    intro k
    simp only [collected,List.mem_filter,key]
    cases s.map.lookup k <;> simp
  have cleaned : s.cleanSessions now = (collected.foldl remove t, none) := by
    unfold cleanSessions; rw [loop]; rfl
  rw [loop,cleaned,List.nil_append]
  refine ⟨rfl, fun pre id post split => ?_, rfl, (cursor_foldl_remove _ _).trans cursor, fun k => ?_⟩
  · dsimp only at split ⊢
    have nodup : collected.Nodup := s.map.keys_nodup.filter _
    rw [split] at nodup
    have once : id ∉ pre := fun mem => List.disjoint_of_nodup_append nodup mem (List.mem_cons_self _ _)
    obtain ⟨d, found, -⟩ := mem_collected.mp (split ▸ List.mem_append_right _ (List.mem_cons_self _ _))
    simp [lookup_foldl_remove,once,lookup,key,found]
  · rw [lookup_foldl_remove,lookup]
    rcases found : s.map.lookup k with _ | d
    · simp [key,found,mem_collected]
    · cases cleaned : cleanedSession now d <;> simp [mem_collected,found,cleaned,key]

/-- A table with one Relay session, last active at time 0 with a keep-alive timeout of 1. -/
def oneRelay : Sessions :=
  let addr : SocketAddr := .v4 (FixedBytes.replicate 4 0) 0
  Sessions.new.insert 0 (.new none (.relay ⟨0, addr, 0, addr⟩) 1 0)

theorem oneRelay_cleaned_at_one :
    (∀ k d, oneRelay.map.lookup k = some d → d.lastActivity ≤ 1) ∧ (oneRelay.cleanSessions 1).1.map.lookup 0 = none :=
  have settled : ∀ k d, oneRelay.map.lookup k = some d → d.lastActivity ≤ 1 := by
    intro k d found
    by_cases here : k = 0
    · subst here
      cases found
      decide
    · simp [oneRelay,here,Sessions.new] at found
  ⟨settled, ((cleanSessions_cleans_expired oneRelay 1 settled).2.2.2.2 0).trans rfl⟩

end Sessions
end StoneNet
