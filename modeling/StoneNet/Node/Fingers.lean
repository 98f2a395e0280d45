import StoneNet.Node.FindNode

/-! The readers of the buckets besides `find_nearest_fingers`: `find_nearest_contacts`, which
answers FIND_NODE and the FIND_VALUE requests that carry fingers, `process_find_node_request`,
`find_finger_or_connection`, `find_connection_in_buckets`, `AllFingersIter` and `find_node`.
They read a bucket's connection and its fingers through more of `Bucket` than the calls that
change it; those reads enter as a second record, with the laws the node relies on. -/
namespace StoneNet

/-- The reads of `Bucket` beyond `BucketOps`: the bucket's connection with the node it goes to,
`public_fingers_no_connection`, `find` and `public_fingers2`. `Connection` stands for the
`Arc<Mutex<Box<Connection>>>` a bucket keeps. The connection's node and the fingers without it
are contacts the bucket holds. -/
structure BucketReads (Bucket Connection : Type) (ops : BucketOps Bucket) where
  connection : Bucket → Option (NodeContactInfo × Connection)
  publicFingersNoConnection : Bucket → List NodeContactInfo
  find : Bucket → IdType → Option NodeContactInfo
  publicFingers2 : Bucket → List NodeContactInfo
  connection_mem : ∀ b c, connection b = some c → c.1 ∈ ops.contacts b
  publicFingersNoConnection_subset : ∀ b, publicFingersNoConnection b ⊆ ops.contacts b

/-- The reads of the list buckets of `BucketOps.list`, which keep no connection. -/
def BucketReads.list : BucketReads (List NodeContactInfo) Unit BucketOps.list where
  connection _ := none
  publicFingersNoConnection b := b
  find b id := b.find? (·.nodeId == id)
  publicFingers2 b := b
  connection_mem _ _ absent := nomatch absent
  publicFingersNoConnection_subset _ := List.Subset.refl _

/-- The reads of the list buckets of `BucketOps.list` when each bucket keeps a connection to
its first contact. -/
def BucketReads.connectedList : BucketReads (List NodeContactInfo) Unit BucketOps.list where
  connection b := b.head?.map (·, ())
  publicFingersNoConnection b := b.tail
  find b id := b.find? (·.nodeId == id)
  publicFingers2 b := b
  connection_mem b _ kept := by
    obtain ⟨c, first, rfl⟩ := Option.map_eq_some'.mp kept
    exact List.mem_of_mem_head? first
  publicFingersNoConnection_subset b := List.tail_subset b

/-- The loop of `find_nearest_contacts` over the buckets in `order`: a bucket with a connection
replaces the connection kept so far, and the bucket's public fingers without its connection's
are added as in `find_nearest_fingers`, until `bucket_size` fingers are collected. -/
def contactsLoop (bucketSize : Nat) (connectionAt : Fin 256 → Option NodeContactInfo)
    (publicFingers : Fin 256 → List NodeContactInfo) :
    List (Fin 256) → Option NodeContactInfo → List NodeContactInfo → Option NodeContactInfo × List NodeContactInfo
  | [], connection, fingers => (connection, fingers)
  | i :: order, connection, fingers =>
    let connection := if (connectionAt i).isSome then connectionAt i else connection
    let additional := publicFingers i
    let remaining := bucketSize - fingers.length
    let fingers := if remaining ≤ additional.length then fingers ++ additional.take remaining else fingers ++ additional
    if bucketSize ≤ fingers.length then (connection, fingers)
    else contactsLoop bucketSize connectionAt publicFingers order connection fingers

/-- `(0..(bucket_pos + 1)).rev()`: the target's bucket and those below it, downwards. -/
def bucketsBelow (p : Fin 256) : List (Fin 256) := ((List.finRange 256).take (p.val + 1)).reverse

/-- `FindNodeRequest`. -/
structure FindNodeRequest where
  nodeId : IdType
  deriving DecidableEq

/-- `AllFingersIter`: the bucket it read last and what is left of that bucket's
`public_fingers2`. -/
structure AllFingersIter where
  globalIndex : Fin 256
  bucketIter : List NodeContactInfo
  deriving DecidableEq

/-- The `loop` of `AllFingersIter::next`: the next finger of the bucket read last, or else the
bucket below it, read as it is now; `None` once bucket 0 is used up. -/
def allFingersLoop (publicFingers2 : Fin 256 → List NodeContactInfo) :
    (index : Nat) → index < 256 → List NodeContactInfo → Option NodeContactInfo × AllFingersIter
  | index, bound, f :: rest => (some f, ⟨⟨index, bound⟩, rest⟩)
  | 0, bound, [] => (none, ⟨⟨0, bound⟩, []⟩)
  | index + 1, bound, [] =>
    allFingersLoop publicFingers2 index (Nat.lt_of_succ_lt bound) (publicFingers2 ⟨index, Nat.lt_of_succ_lt bound⟩)

section Reads

variable {Bucket Connection : Type} {ops : BucketOps Bucket} (reads : BucketReads Bucket Connection ops)

/-- `Node::find_nearest_contacts`: the connection and the fingers a FIND_NODE answer carries. -/
def Node.findNearestContacts (node : Node Bucket) (id : IdType) : Option NodeContactInfo × List NodeContactInfo :=
  match node.differsAtBit id with
  | none => (none, [])
  | some p =>
    contactsLoop node.bucketSize (fun i => (reads.connection (node.buckets i)).map (·.1))
      (fun i => reads.publicFingersNoConnection (node.buckets i)) (bucketsBelow p) none []

/-- `Node::process_find_node_request`: what `find_nearest_contacts` gives for the requested id,
serialized as a `FindNodeResponse`; nothing for a request that does not deserialize. -/
def Node.processFindNodeRequest (requestCodec : Codec FindNodeRequest) (responseCodec : Codec FindNodeResponse)
    (node : Node Bucket) (buffer : Bytes) : Option Bytes :=
  (requestCodec.deserialize buffer).map fun request =>
    let (connection, fingers) := node.findNearestContacts reads request.nodeId
    responseCodec.encode ⟨connection, fingers⟩

/-- `Node::find_finger_or_connection`: in the bucket of `id`, the node of the bucket's
connection with the connection when that node is `id`, and otherwise what `find` has. -/
def Node.findFingerOrConnection (node : Node Bucket) (id : IdType) : Option (NodeContactInfo × Option Connection) :=
  match node.differsAtBit id with
  | none => none
  | some p =>
    match reads.connection (node.buckets p) with
    | some (n, connection) =>
      if n.nodeId = id then some (n, some connection) else (reads.find (node.buckets p) id).map (·, none)
    | none => (reads.find (node.buckets p) id).map (·, none)

/-- The connection a bucket keeps, when it goes to `id`. -/
def BucketReads.connectionTo (bucket : Bucket) (id : IdType) : Option Connection :=
  match reads.connection bucket with
  | some (n, connection) => if n.nodeId = id then some connection else none
  | none => none

/-- `Node::find_connection_in_buckets`: the first connection to `id`, from bucket 255 down. -/
def Node.findConnectionInBuckets (node : Node Bucket) (id : IdType) : Option Connection :=
  (List.finRange 256).reverse.findSome? fun i => reads.connectionTo (node.buckets i) id

/-- `Node::iter_all_fingers`: bucket 255 is read first. -/
def Node.iterAllFingers (node : Node Bucket) : AllFingersIter :=
  ⟨255, reads.publicFingers2 (node.buckets 255)⟩

/-- `AllFingersIter::next`, on the buckets of `node` as they are when it is called. -/
def AllFingersIter.next (node : Node Bucket) (it : AllFingersIter) : Option NodeContactInfo × AllFingersIter :=
  allFingersLoop (fun i => reads.publicFingers2 (node.buckets i)) it.globalIndex it.globalIndex.isLt it.bucketIter

/-- `Node::find_node`: a lookup seeded with the nearest fingers the node knows, and nothing when
it knows none. -/
def Node.findNode (node : Node Bucket) (answer : Nat → FindNodeAnswer) (id : IdType) (resultLimit hopLimit : Nat)
    (ownOpenness : ContactOption → Option Openness) (fuel : Nat) : Option (List NodeContactInfo) :=
  let fingers := node.findNearestFingers ops id
  if fingers.length = 0 then some []
  else node.findNodeFromFingers answer id resultLimit hopLimit ownOpenness fingers fuel

end Reads

/-! ## `find_nearest_contacts` -/

theorem mem_take_finRange {n k : Nat} {i : Fin n} : i ∈ (List.finRange n).take k ↔ i.val < k := by
  simp only [List.mem_iff_getElem,List.length_take,List.length_finRange,List.getElem_take,List.getElem_finRange]
  exact ⟨fun ⟨m, bound, same⟩ => same ▸ (Nat.lt_min.mp bound).1, fun below => ⟨i.val, Nat.lt_min.mpr ⟨below, i.isLt⟩, rfl⟩⟩

theorem mem_bucketsBelow {p i : Fin 256} : i ∈ bucketsBelow p ↔ i ≤ p := by
  rw [bucketsBelow,List.mem_reverse,mem_take_finRange]
  exact Nat.lt_succ_iff

section Contacts

variable {k : Nat} {connectionAt : Fin 256 → Option NodeContactInfo} {publicFingers : Fin 256 → List NodeContactInfo}

/-- The fingers `find_nearest_contacts` collects are those `find_nearest_fingers` would collect
in the same order. -/
theorem contactsLoop_fingers (order : List (Fin 256)) (connection : Option NodeContactInfo)
    (fingers : List NodeContactInfo) :
    (contactsLoop k connectionAt publicFingers order connection fingers).2 = nearestLoop k publicFingers order fingers := by
  induction order generalizing connection fingers with
  | nil => rfl
  | cons i order ih =>
    simp only [contactsLoop,nearestLoop]
    split <;> split
    all_goals first | rfl | exact ih _ _

/-- The connection it returns is the one it started with or that of a bucket it visited. -/
theorem contactsLoop_connection (order : List (Fin 256)) (connection : Option NodeContactInfo)
    (fingers : List NodeContactInfo) :
    (contactsLoop k connectionAt publicFingers order connection fingers).1 = connection ∨
      ∃ i ∈ order, (contactsLoop k connectionAt publicFingers order connection fingers).1 = connectionAt i := by
  induction order generalizing connection fingers with
  | nil => exact .inl rfl
  | cons i order ih =>
    rw [contactsLoop]
    generalize (if k - fingers.length ≤ (publicFingers i).length then fingers ++ (publicFingers i).take (k - fingers.length)
      else fingers ++ publicFingers i) = grown
    have kept : (if (connectionAt i).isSome then connectionAt i else connection) = connection ∨
        (if (connectionAt i).isSome then connectionAt i else connection) = connectionAt i := by
      split <;> simp
    generalize (if (connectionAt i).isSome then connectionAt i else connection) = chosen at kept ⊢
    have here : chosen = connection ∨ ∃ j ∈ i :: order, chosen = connectionAt j :=
      kept.imp_right fun found => ⟨i, List.mem_cons_self _ _, found⟩
    split
    · exact here
    · rcases ih chosen grown with same | ⟨j, mem, found⟩
      · rw [same]; exact here
      · exact .inr ⟨j, List.mem_cons_of_mem _ mem, found⟩

end Contacts

section Nearest

variable {Bucket Connection : Type} {ops : BucketOps Bucket} (reads : BucketReads Bucket Connection ops)
  {node : Node Bucket} {target : IdType} {p : Fin 256}

theorem findNearestContacts_fingers (targetBucket : node.differsAtBit target = some p) :
    (node.findNearestContacts reads target).2 =
      ((bucketsBelow p).flatMap fun i => reads.publicFingersNoConnection (node.buckets i)).take node.bucketSize := by
  unfold Node.findNearestContacts
  rw [targetBucket]
  exact (contactsLoop_fingers _ _ _).trans (nearestLoop_eq _ (Nat.zero_le _))

theorem findNearestContacts_connection (targetBucket : node.differsAtBit target = some p) {n : NodeContactInfo}
    (found : (node.findNearestContacts reads target).1 = some n) :
    ∃ i, i ≤ p ∧ n ∈ ops.contacts (node.buckets i) := by
  unfold Node.findNearestContacts at found
  rw [targetBucket] at found
  rcases contactsLoop_connection (bucketsBelow p) none [] with initial | ⟨i, mem, chosen⟩
  · rw [initial] at found; cases found
  · obtain ⟨c, kept, rfl⟩ := Option.map_eq_some'.mp (chosen ▸ found)
    exact ⟨i, mem_bucketsBelow.mp mem, reads.connection_mem _ _ kept⟩

/-- Everything `find_nearest_contacts` returns is held by the target's bucket or one below it. -/
theorem findNearestContacts_held (targetBucket : node.differsAtBit target = some p) {n : NodeContactInfo}
    (mem : n ∈ (node.findNearestContacts reads target).1.toList ++ (node.findNearestContacts reads target).2) :
    ∃ i, i ≤ p ∧ n ∈ ops.contacts (node.buckets i) := by
  rcases List.mem_append.mp mem with connection | finger
  · exact findNearestContacts_connection reads targetBucket (Option.mem_toList.mp connection)
  · rw [findNearestContacts_fingers reads targetBucket] at finger
    obtain ⟨i, below, held⟩ := List.mem_flatMap.mp (List.mem_of_mem_take finger)
    exact ⟨i, mem_bucketsBelow.mp below, reads.publicFingersNoConnection_subset _ held⟩

/-- `find_nearest_contacts` answers for a target in bucket `p` with the first `bucket_size`
fingers of that bucket and the buckets below it, downwards. Everything it returns, the
connection included, is less than `2 ^ (p + 1)` from the target, so closer to it than every
contact of a bucket above `p`, and is not the node itself; a finger of bucket `p` is closer to
the target than the node is. -/
theorem findNearestContacts_closer (placed : BucketsPlaced ops node) (targetBucket : node.differsAtBit target = some p) :
    (node.findNearestContacts reads target).2 =
      ((bucketsBelow p).flatMap fun i => reads.publicFingersNoConnection (node.buckets i)).take node.bucketSize ∧
    (∀ n ∈ (node.findNearestContacts reads target).1.toList ++ (node.findNearestContacts reads target).2,
      n.nodeId ≠ node.nodeId ∧ distance target n.nodeId < 2 ^ (p.val + 1) ∧
        ∀ j, p < j → ∀ g ∈ ops.contacts (node.buckets j), distance target n.nodeId < distance target g.nodeId) ∧
    ∀ f ∈ (node.findNearestContacts reads target).2, node.differsAtBit f.nodeId = some p →
      distance target f.nodeId < distance target node.nodeId := by
  refine ⟨findNearestContacts_fingers reads targetBucket, fun n mem => ?_, fun f _ same => ?_⟩
  · obtain ⟨i, atMost, held⟩ := findNearestContacts_held reads targetBucket mem
    have placedAt := placed i n held
    have close := distance_lt_of_bucket_le targetBucket placedAt atMost
    refine ⟨fun own => ?_, close, fun j above g inJ => ?_⟩
    · rw [own,differsAtBit_self] at placedAt; cases placedAt
    · calc distance target n.nodeId < 2 ^ (p.val + 1) := close
        _ ≤ 2 ^ j.val := Nat.pow_le_pow_right (by omega) above
        _ ≤ distance target g.nodeId := two_pow_le_distance_of_higher_bucket targetBucket (placed j g inJ) above
  · calc distance target f.nodeId < 2 ^ p.val := distance_lt_of_same_bucket targetBucket same
      _ ≤ distance target node.nodeId := two_pow_le_distance_of_bucket targetBucket

end Nearest

theorem lowNode_placed : BucketsPlaced BucketOps.list lowNode := (BucketsPlaced.new (lowId 0) ⟨none, none⟩ 1).run _

theorem findNearestContacts_closer_lowNode :
    BucketsPlaced BucketOps.list lowNode ∧ lowNode.differsAtBit (lowId 2) = some 1 ∧
      (lowNode.findNearestContacts BucketReads.list (lowId 2)).2 =
        ((bucketsBelow 1).flatMap fun i => BucketReads.list.publicFingersNoConnection (lowNode.buckets i)).take
          lowNode.bucketSize := by
  have targetBucket : lowNode.differsAtBit (lowId 2) = some 1 := by
    rw [Node.differsAtBit,lowNode,nodeId_runNodeOps]
    exact differsAtBit_eq_some_iff.mpr ⟨by decide, by decide⟩
  exact ⟨lowNode_placed, targetBucket, (findNearestContacts_closer BucketReads.list lowNode_placed targetBucket).1⟩

/-! ## `find_connection_in_buckets` and `find_finger_or_connection` -/

/-- A scan that can only hit at `a` finds what `a` gives. -/
theorem findSome?_eq_of_unique {α β : Type} {f : α → Option β} {a : α} {l : List α} (mem : a ∈ l)
    (only : ∀ i ∈ l, i ≠ a → f i = none) : l.findSome? f = f a := by
  induction l with
  | nil => cases mem
  | cons x xs ih =>
    rw [List.findSome?_cons]
    by_cases here : x = a
    · subst here
      cases found : f x with
      | some b => rfl
      | none =>
        refine List.findSome?_eq_none_iff.mpr fun i inXs => ?_
        by_cases same : i = x
        · rw [same, found]
        · exact only i (List.mem_cons_of_mem _ inXs) same
    · rw [only x (List.mem_cons_self _ _) here]
      exact ih ((List.mem_cons.mp mem).resolve_left (Ne.symm here)) fun i inXs => only i (List.mem_cons_of_mem _ inXs)

section Connections

variable {Bucket Connection : Type} {ops : BucketOps Bucket} (reads : BucketReads Bucket Connection ops)
  {node : Node Bucket}

/-- A bucket of a placed node keeps a connection to `id` only when it is the bucket of `id`. -/
theorem connectionTo_placed (placed : BucketsPlaced ops node) {i : Fin 256} {id : IdType} {c : Connection}
    (found : reads.connectionTo (node.buckets i) id = some c) : node.differsAtBit id = some i := by
  unfold BucketReads.connectionTo at found
  split at found
  · next n connection kept =>
    split at found
    · next same => rw [← same]; exact placed i n (reads.connection_mem _ _ kept)
    · cases found
  · cases found

theorem findFingerOrConnection_connection {id : IdType} {p : Fin 256} (idBucket : node.differsAtBit id = some p) :
    (node.findFingerOrConnection reads id).bind (·.2) = reads.connectionTo (node.buckets p) id := by
  unfold Node.findFingerOrConnection BucketReads.connectionTo
  rw [idBucket]
  dsimp only
  split
  · split <;> cases reads.find (node.buckets p) id <;> rfl
  · cases reads.find (node.buckets p) id <;> rfl

/-- On a node whose buckets hold their contacts where they belong, the scan of all 256 buckets
in `find_connection_in_buckets` finds exactly the connection `find_finger_or_connection` finds
in the one bucket of `id`: none for the node's own id, and otherwise the connection of that
bucket when it goes to `id`. -/
theorem findConnectionInBuckets_eq (placed : BucketsPlaced ops node) (id : IdType) :
    node.findConnectionInBuckets reads id = (node.findFingerOrConnection reads id).bind (·.2) := by
  unfold Node.findConnectionInBuckets
  cases idBucket : node.differsAtBit id with
  | none =>
    have none : node.findFingerOrConnection reads id = none := by
      unfold Node.findFingerOrConnection; rw [idBucket]
    rw [none]
    refine List.findSome?_eq_none_iff.mpr fun i _ => ?_
    cases found : reads.connectionTo (node.buckets i) id with
    | none => rfl
    | some c => rw [connectionTo_placed reads placed found] at idBucket; cases idBucket
  | some p =>
    rw [findFingerOrConnection_connection reads idBucket]
    refine findSome?_eq_of_unique (List.mem_reverse.mpr (List.mem_finRange p)) fun i _ other => ?_
    cases found : reads.connectionTo (node.buckets i) id with
    | none => rfl
    | some c =>
      rw [connectionTo_placed reads placed found] at idBucket
      exact absurd (Option.some.inj idBucket) other

end Connections

/-- With a connection to the first contact of each bucket, the scan finds the connection to
node 4, as the lookup in bucket 2 does. -/
theorem findConnectionInBuckets_eq_lowNode :
    BucketsPlaced BucketOps.list lowNode ∧
      lowNode.findConnectionInBuckets BucketReads.connectedList (lowId 4) = some () ∧
      lowNode.findConnectionInBuckets BucketReads.connectedList (lowId 4) =
        (lowNode.findFingerOrConnection BucketReads.connectedList (lowId 4)).bind (·.2) := by
  have four : lowNode.differsAtBit (lowId 4) = some 2 := by
    rw [Node.differsAtBit,lowNode,nodeId_runNodeOps]
    exact differsAtBit_eq_some_iff.mpr ⟨by decide, by decide⟩
  have found : (lowNode.findFingerOrConnection BucketReads.connectedList (lowId 4)).bind (·.2) = some () := by
    rw [findFingerOrConnection_connection BucketReads.connectedList four,lowNode_buckets,Function.update_same]
    decide
  have same := findConnectionInBuckets_eq BucketReads.connectedList lowNode_placed (lowId 4)
  exact ⟨lowNode_placed, same.trans found, same⟩

/-! ## `AllFingersIter` -/

theorem take_finRange_succ_reverse {n k : Nat} (h : k < n) :
    ((List.finRange n).take (k + 1)).reverse = ⟨k, h⟩ :: ((List.finRange n).take k).reverse := by
  rw [List.take_succ, List.reverse_append]
  simp [h]

/-- What an `AllFingersIter` has still to give: the rest of the bucket it read last, then the
public fingers of every bucket below it, downwards. -/
def AllFingersIter.remaining (publicFingers2 : Fin 256 → List NodeContactInfo) (it : AllFingersIter) :
    List NodeContactInfo :=
  it.bucketIter ++ ((List.finRange 256).take it.globalIndex).reverse.flatMap publicFingers2

theorem allFingersLoop_cons (publicFingers2 : Fin 256 → List NodeContactInfo) (index : Nat) (bound : index < 256)
    (f : NodeContactInfo) (rest : List NodeContactInfo) :
    allFingersLoop publicFingers2 index bound (f :: rest) = (some f, ⟨⟨index, bound⟩, rest⟩) := by
  cases index <;> rfl

/-- One call of `AllFingersIter::next` gives the head of what the iterator has still to give
and leaves the tail. -/
theorem allFingersLoop_spec (publicFingers2 : Fin 256 → List NodeContactInfo) (index : Nat) (bound : index < 256)
    (bucketIter : List NodeContactInfo) :
    let rest := bucketIter ++ ((List.finRange 256).take index).reverse.flatMap publicFingers2
    (allFingersLoop publicFingers2 index bound bucketIter).1 = rest.head? ∧
      (allFingersLoop publicFingers2 index bound bucketIter).2.remaining publicFingers2 = rest.tail := by
  induction index generalizing bucketIter with
  | zero =>
    rcases bucketIter with _ | ⟨f, rest⟩
    · exact ⟨rfl, rfl⟩
    · rw [allFingersLoop_cons]; exact ⟨rfl, rfl⟩
  | succ index ih =>
    rcases bucketIter with _ | ⟨f, rest⟩
    · rw [allFingersLoop, take_finRange_succ_reverse (Nat.lt_of_succ_lt bound), List.flatMap_cons, List.nil_append]
      exact ih (Nat.lt_of_succ_lt bound) _
    · rw [allFingersLoop_cons]; exact ⟨rfl, rfl⟩

section Iter

variable {Bucket Connection : Type} {ops : BucketOps Bucket} (reads : BucketReads Bucket Connection ops)
  (node : Node Bucket)

/-- The public fingers of every bucket, from bucket 255 down to bucket 0. -/
def Node.allFingers : List NodeContactInfo :=
  (List.finRange 256).reverse.flatMap fun i => reads.publicFingers2 (node.buckets i)

theorem remaining_iterAllFingers :
    (node.iterAllFingers reads).remaining (fun i => reads.publicFingers2 (node.buckets i)) = node.allFingers reads := by
  rw [Node.allFingers, ← List.take_length (List.finRange 256), List.length_finRange,
    take_finRange_succ_reverse (by decide : 255 < 256), List.flatMap_cons]
  rfl

theorem remaining_iterate (k : Nat) :
    ((fun it => (it.next reads node).2)^[k] (node.iterAllFingers reads)).remaining
      (fun i => reads.publicFingers2 (node.buckets i)) = (node.allFingers reads).drop k := by
  induction k with
  | zero => rw [Function.iterate_zero_apply, remaining_iterAllFingers, List.drop_zero]
  | succ k ih =>
    rw [Function.iterate_succ_apply', AllFingersIter.next, (allFingersLoop_spec _ _ _ _).2]
    exact (congrArg List.tail ih).trans (List.tail_drop _ _)

/-- While the buckets do not change, `AllFingersIter` gives every public finger of the node once,
from bucket 255 down to bucket 0 and in each bucket in `public_fingers2` order: its `k`-th call
gives the `k`-th of them, and every call after the last gives `None`. -/
theorem iterAllFingers_enumerates (k : Nat) :
    (((fun it => (it.next reads node).2)^[k] (node.iterAllFingers reads)).next reads node).1 =
      (node.allFingers reads)[k]? := by
  rw [AllFingersIter.next, (allFingersLoop_spec _ _ _ _).1]
  exact (congrArg List.head? (remaining_iterate reads node k)).trans (List.head?_drop _ _)

end Iter

end StoneNet
