import StoneNet.Node.Contact

/-! The 256 buckets of a `Node`, the calls of `node.rs` that change them, and
`find_nearest_fingers`, which reads them. `Bucket` is declared outside the source files: it
enters as a record of its operations with what the node relies on, which is that each
operation touches only the contact it is given. Each bucket has its own lock and every call
takes one bucket's lock once, so a call is one step and any interleaving of calls is a list. -/
namespace StoneNet

/-- The operations of `Bucket` that `node.rs` calls. `contacts` is every contact the bucket
holds, its connection's included. -/
structure BucketOps (Bucket : Type) where
  new : Nat → Bucket
  contacts : Bucket → List NodeContactInfo
  publicFingers : Bucket → List NodeContactInfo
  markHelpful : Bucket → NodeContactInfo → Bool → Bucket
  markProblematic : Bucket → IdType → Bucket
  reject : Bucket → IdType → Bucket
  markObtainedValue : Bucket → IdType → Bucket
  contacts_new : ∀ size, contacts (new size) = []
  publicFingers_subset : ∀ b, publicFingers b ⊆ contacts b
  markHelpful_contacts : ∀ b n connection, contacts (markHelpful b n connection) ⊆ n :: contacts b
  markProblematic_contacts : ∀ b id, contacts (markProblematic b id) ⊆ contacts b
  reject_contacts : ∀ b id, contacts (reject b id) ⊆ contacts b
  markObtainedValue_contacts : ∀ b id, contacts (markObtainedValue b id) ⊆ contacts b

/-- A bucket as a plain list of contacts: a helpful node is appended when no contact has its
id, and a rejected one is dropped. -/
def BucketOps.list : BucketOps (List NodeContactInfo) where
  new _ := []
  contacts b := b
  publicFingers b := b
  markHelpful b n _ := if b.any (·.nodeId == n.nodeId) then b else b ++ [n]
  markProblematic b _ := b
  reject b id := b.filter (·.nodeId != id)
  markObtainedValue b _ := b
  contacts_new _ := rfl
  publicFingers_subset _ := List.Subset.refl _
  markHelpful_contacts b n _ := by
    dsimp only
    split
    · exact List.subset_cons_self _ _
    · intro c mem
      rcases List.mem_append.mp mem with old | new
      · exact List.mem_cons_of_mem _ old
      · exact List.mem_singleton.mp new ▸ List.mem_cons_self _ _
  markProblematic_contacts _ _ := List.Subset.refl _
  reject_contacts _ _ := List.filter_subset' _
  markObtainedValue_contacts _ _ := List.Subset.refl _

/-- `Node`, with the fields its bucket calls and lookups read: `sockets` is the
`SocketCollection` of its server. -/
structure Node (Bucket : Type) where
  nodeId : IdType
  buckets : Fin 256 → Bucket
  sockets : SocketCollection
  bucketSize : Nat

namespace Node

variable {Bucket : Type} (ops : BucketOps Bucket)

/-- `Node::new`: 256 new buckets. -/
def new (nodeId : IdType) (sockets : SocketCollection) (bucketSize : Nat) : Node Bucket :=
  ⟨nodeId, fun _ => ops.new bucketSize, sockets, bucketSize⟩

/-- `Node::differs_at_bit`. -/
def differsAtBit (node : Node Bucket) (otherId : IdType) : Option (Fin 256) :=
  StoneNet.differsAtBit node.nodeId otherId

/-- `Node::find_bucket`, as the bucket's index. -/
def findBucket (node : Node Bucket) (nodeId : IdType) : Option (Fin 256) := node.differsAtBit nodeId

/-- Changes the bucket of `nodeId` under its lock; the node's own id has no bucket. -/
def updateBucket (node : Node Bucket) (nodeId : IdType) (f : Bucket → Bucket) : Node Bucket :=
  match node.differsAtBit nodeId with
  | some i => { node with buckets := Function.update node.buckets i (f (node.buckets i)) }
  | none => node

/-- `Node::mark_node_problematic`. -/
def markNodeProblematic (node : Node Bucket) (nodeId : IdType) : Node Bucket :=
  node.updateBucket nodeId (ops.markProblematic · nodeId)

/-- `Node::mark_node_helpful`. -/
def markNodeHelpful (node : Node Bucket) (nodeInfo : NodeContactInfo) : Node Bucket :=
  node.updateBucket nodeInfo.nodeId (ops.markHelpful · nodeInfo false)

/-- `Node::mark_obtained_value`, through `find_bucket`. -/
def markObtainedValue (node : Node Bucket) (nodeId : IdType) : Node Bucket :=
  match node.findBucket nodeId with
  | some i => { node with buckets := Function.update node.buckets i (ops.markObtainedValue (node.buckets i) nodeId) }
  | none => node

/-- `Node::reject_node`. -/
def rejectNode (node : Node Bucket) (nodeId : IdType) : Node Bucket :=
  node.updateBucket nodeId (ops.reject · nodeId)

/-- `Node::handle_connection_issue`: a timeout marks the node problematic, an error that is
not forgivable rejects it, and a response marks it helpful. `forgivable` is
`Error::forgivable`, declared outside the source files. -/
def handleConnectionIssue {α : Type} (forgivable : Error → Bool) (node : Node Bucket)
    (result : Except Error α) (nodeInfo : NodeContactInfo) : Node Bucket × Option α :=
  match result with
  | .error .timeout => (node.markNodeProblematic ops nodeInfo.nodeId, none)
  | .error e => (if !forgivable e then node.rejectNode ops nodeInfo.nodeId else node, none)
  | .ok response => (node.markNodeHelpful ops nodeInfo, some response)

/-- A bucket call changes the buckets and nothing else of the node. -/
theorem updateBucket_frame (node : Node Bucket) (nodeId : IdType) (f : Bucket → Bucket) :
    ∃ buckets, node.updateBucket nodeId f = { node with buckets := buckets } := by
  unfold updateBucket
  split
  · exact ⟨_, rfl⟩
  · exact ⟨node.buckets, rfl⟩

@[simp] theorem nodeId_updateBucket (node : Node Bucket) (nodeId : IdType) (f : Bucket → Bucket) :
    (node.updateBucket nodeId f).nodeId = node.nodeId := by
  obtain ⟨_, changed⟩ := updateBucket_frame node nodeId f
  rw [changed]

theorem markObtainedValue_eq (node : Node Bucket) (nodeId : IdType) :
    node.markObtainedValue ops nodeId = node.updateBucket nodeId (ops.markObtainedValue · nodeId) := rfl

theorem buckets_updateBucket {node : Node Bucket} {nodeId : IdType} {i : Fin 256} (f : Bucket → Bucket)
    (found : node.differsAtBit nodeId = some i) :
    (node.updateBucket nodeId f).buckets = Function.update node.buckets i (f (node.buckets i)) := by
  unfold updateBucket; rw [found]

end Node

/-- The calls that change a bucket, with the arguments their callers pass
(`handle_connection_issue`, `connect`, `join_network_starting_at`, the request handlers and
`FindValueIter::next`). -/
inductive NodeOp where
  | markNodeProblematic (nodeId : IdType)
  | markNodeHelpful (nodeInfo : NodeContactInfo)
  | markObtainedValue (nodeId : IdType)
  | rejectNode (nodeId : IdType)
  deriving DecidableEq

section Run

variable {Bucket : Type} (ops : BucketOps Bucket)

def NodeOp.apply (node : Node Bucket) : NodeOp → Node Bucket
  | .markNodeProblematic nodeId => node.markNodeProblematic ops nodeId
  | .markNodeHelpful nodeInfo => node.markNodeHelpful ops nodeInfo
  | .markObtainedValue nodeId => node.markObtainedValue ops nodeId
  | .rejectNode nodeId => node.rejectNode ops nodeId

/-- The node after a run of bucket calls. -/
def runNodeOps (calls : List NodeOp) (node : Node Bucket) : Node Bucket := calls.foldl (NodeOp.apply ops) node

/-- Every contact a bucket holds first differs from the node's id at the bucket's index. -/
def BucketsPlaced (node : Node Bucket) : Prop :=
  ∀ i c, c ∈ ops.contacts (node.buckets i) → differsAtBit node.nodeId c.nodeId = some i

namespace BucketsPlaced

variable {ops} {node : Node Bucket}

theorem new (nodeId : IdType) (sockets : SocketCollection) (bucketSize : Nat) :
    BucketsPlaced ops (Node.new ops nodeId sockets bucketSize) := fun _ _ held => by
  simp [Node.new,ops.contacts_new] at held

/-- A change of the bucket of `nodeId` that adds no contact but one with that id keeps every
contact placed. -/
theorem updateBucket (placed : BucketsPlaced ops node) {nodeId : IdType} {f : Bucket → Bucket}
    (touches : ∀ b c, c ∈ ops.contacts (f b) → c ∈ ops.contacts b ∨ c.nodeId = nodeId) :
    BucketsPlaced ops (node.updateBucket nodeId f) := by
  rcases found : node.differsAtBit nodeId with _ | i
  · unfold Node.updateBucket; rw [found]; exact placed
  intro j c held
  rw [Node.nodeId_updateBucket]
  rw [Node.buckets_updateBucket f found] at held
  by_cases here : j = i
  · subst here
    rw [Function.update_same] at held
    rcases touches _ c held with old | given
    · exact placed j c old
    · exact given ▸ found
  · rw [Function.update_noteq here] at held
    exact placed j c held

theorem apply (placed : BucketsPlaced ops node) (call : NodeOp) : BucketsPlaced ops (call.apply ops node) := by
  cases call with
  | markNodeProblematic nodeId =>
    exact placed.updateBucket fun b c held => .inl (ops.markProblematic_contacts b nodeId held)
  | markNodeHelpful nodeInfo =>
    refine placed.updateBucket fun b c held => ?_
    rcases List.mem_cons.mp (ops.markHelpful_contacts b nodeInfo false held) with rfl | old
    · exact .inr rfl
    · exact .inl old
  | markObtainedValue nodeId =>
    rw [NodeOp.apply,Node.markObtainedValue_eq]
    exact placed.updateBucket fun b c held => .inl (ops.markObtainedValue_contacts b nodeId held)
  | rejectNode nodeId =>
    exact placed.updateBucket fun b c held => .inl (ops.reject_contacts b nodeId held)

theorem run (placed : BucketsPlaced ops node) (calls : List NodeOp) :
    BucketsPlaced ops (runNodeOps ops calls node) := by
  induction calls generalizing node with
  | nil => exact placed
  | cons call calls ih => exact ih (placed.apply call)

end BucketsPlaced

/-- A run of bucket calls changes the buckets and nothing else of the node. -/
theorem runNodeOps_frame (calls : List NodeOp) (node : Node Bucket) :
    ∃ buckets, runNodeOps ops calls node = { node with buckets := buckets } := by
  induction calls generalizing node with
  | nil => exact ⟨node.buckets, rfl⟩
  | cons call calls ih =>
    obtain ⟨_, step⟩ : ∃ buckets, call.apply ops node = { node with buckets := buckets } := by
      cases call with
      | markNodeProblematic nodeId => exact Node.updateBucket_frame node nodeId (ops.markProblematic · nodeId)
      | markNodeHelpful nodeInfo => exact Node.updateBucket_frame node nodeInfo.nodeId (ops.markHelpful · nodeInfo false)
      | markObtainedValue nodeId => exact Node.updateBucket_frame node nodeId (ops.markObtainedValue · nodeId)
      | rejectNode nodeId => exact Node.updateBucket_frame node nodeId (ops.reject · nodeId)
    obtain ⟨buckets, rest⟩ := ih (call.apply ops node)
    exact ⟨buckets, rest.trans (by rw [step])⟩

@[simp] theorem nodeId_runNodeOps (calls : List NodeOp) (node : Node Bucket) :
    (runNodeOps ops calls node).nodeId = node.nodeId := by
  obtain ⟨_, run⟩ := runNodeOps_frame ops calls node
  rw [run]

@[simp] theorem bucketSize_runNodeOps (calls : List NodeOp) (node : Node Bucket) :
    (runNodeOps ops calls node).bucketSize = node.bucketSize := by
  obtain ⟨_, run⟩ := runNodeOps_frame ops calls node
  rw [run]

/-- The bucket invariant over every run of bucket calls from `Node::new`: every contact in
bucket `i` first differs from the node's id at bit `i`, so the node's own id is in no bucket. -/
theorem runNodeOps_buckets_placed (nodeId : IdType) (sockets : SocketCollection) (bucketSize : Nat)
    (calls : List NodeOp) :
    let node := runNodeOps ops calls (Node.new ops nodeId sockets bucketSize)
    (∀ i c, c ∈ ops.contacts (node.buckets i) → differsAtBit nodeId c.nodeId = some i) ∧
      ∀ i c, c ∈ ops.contacts (node.buckets i) → c.nodeId ≠ nodeId := by
  intro node
  have placed : BucketsPlaced ops node := (BucketsPlaced.new nodeId sockets bucketSize).run calls
  have same : node.nodeId = nodeId := nodeId_runNodeOps ops calls _
  refine ⟨fun i c held => same ▸ placed i c held, fun i c held own => ?_⟩
  have := placed i c held
  rw [same,own,differsAtBit_self] at this
  cases this

end Run

/-! ## `find_nearest_fingers` -/

/-- `(bucket_pos..256).chain((0..bucket_pos).rev())`: the target's bucket and those above it,
then those below it, downwards. -/
def bucketOrder (p : Fin 256) : List (Fin 256) :=
  (List.finRange 256).drop p ++ ((List.finRange 256).take p).reverse

/-- The loop of `find_nearest_fingers` over the buckets in `order`: each bucket's public
fingers are added, only the first `bucket_size - fingers.len()` of them when that many are
left, until `bucket_size` fingers are collected. -/
def nearestLoop (bucketSize : Nat) (publicFingers : Fin 256 → List NodeContactInfo) :
    List (Fin 256) → List NodeContactInfo → List NodeContactInfo
  | [], fingers => fingers
  | i :: order, fingers =>
    let additional := publicFingers i
    let remaining := bucketSize - fingers.length
    let fingers := if remaining ≤ additional.length then fingers ++ additional.take remaining else fingers ++ additional
    if bucketSize ≤ fingers.length then fingers else nearestLoop bucketSize publicFingers order fingers

section Nearest

variable {Bucket : Type} (ops : BucketOps Bucket)

/-- `Node::find_nearest_fingers`. -/
def Node.findNearestFingers (node : Node Bucket) (id : IdType) : List NodeContactInfo :=
  match node.differsAtBit id with
  | none => []
  | some p => nearestLoop node.bucketSize (fun i => ops.publicFingers (node.buckets i)) (bucketOrder p) []

/-- The loop collects the first fingers in bucket order, up to `bucket_size`. -/
theorem nearestLoop_eq {k : Nat} {publicFingers : Fin 256 → List NodeContactInfo} (order : List (Fin 256))
    {fingers : List NodeContactInfo} (room : fingers.length ≤ k) :
    nearestLoop k publicFingers order fingers = fingers ++ (order.flatMap publicFingers).take (k - fingers.length) := by
  induction order generalizing fingers with
  | nil => simp [nearestLoop]
  | cons i order ih =>
    simp only [nearestLoop,List.flatMap_cons]
    split
    · next fits =>
      rw [if_pos (by simp; omega),List.take_append_of_le_length fits]
    · next short =>
      have grown : (fingers ++ publicFingers i).length = fingers.length + (publicFingers i).length :=
        List.length_append _ _
      rw [if_neg (by omega),ih (by omega),List.append_assoc,List.take_append_eq_append_take,
        List.take_of_length_le (show (publicFingers i).length ≤ k - fingers.length by omega),grown,Nat.sub_add_eq]

theorem findNearestFingers_eq {node : Node Bucket} {id : IdType} {p : Fin 256} (targetBucket : node.differsAtBit id = some p) :
    node.findNearestFingers ops id = ((bucketOrder p).flatMap fun i => ops.publicFingers (node.buckets i)).take node.bucketSize := by
  unfold Node.findNearestFingers
  rw [targetBucket]
  exact nearestLoop_eq _ (Nat.zero_le _)

theorem bucketOrder_perm (p : Fin 256) : (bucketOrder p).Perm (List.finRange 256) := by
  have split {α : Type} (l : List α) : (l.drop p ++ (l.take p).reverse).Perm l :=
    List.perm_append_comm.trans (((List.reverse_perm _).append_right _).trans (List.Perm.of_eq (List.take_append_drop _ l)))
  exact split _

/-- `find_nearest_fingers` returns `min(bucket_size, N)` of the `N` public fingers it knows, for
every target other than the node's own id. -/
theorem findNearestFingers_length (node : Node Bucket) {id : IdType} (other : id ≠ node.nodeId) :
    (node.findNearestFingers ops id).length =
      min node.bucketSize ((List.finRange 256).flatMap fun i => ops.publicFingers (node.buckets i)).length := by
  obtain ⟨p, targetBucket⟩ := Option.ne_none_iff_exists'.mp fun none =>
    other (differsAtBit_eq_none_iff.mp none).symm
  rw [findNearestFingers_eq ops targetBucket,List.length_take,((bucketOrder_perm p).flatMap_right _).length_eq]

theorem findNearestFingers_length_run :
    let node := runNodeOps BucketOps.list [.markNodeHelpful ⟨.replicate 32 1, ⟨none, none⟩⟩]
      (Node.new BucketOps.list (.replicate 32 0) ⟨none, none⟩ 2)
    (.replicate 32 2 : IdType) ≠ node.nodeId ∧
      (node.findNearestFingers BucketOps.list (.replicate 32 2)).length =
        min node.bucketSize ((List.finRange 256).flatMap fun i => BucketOps.list.publicFingers (node.buckets i)).length := by
  intro node
  have other : (.replicate 32 2 : IdType) ≠ node.nodeId := by
    rw [nodeId_runNodeOps]
    decide
  exact ⟨other, findNearestFingers_length BucketOps.list node other⟩

theorem le_of_mem_drop_finRange {n p : Nat} {m : Fin n} (mem : m ∈ (List.finRange n).drop p) : p ≤ m.val := by
  obtain ⟨k, bound, rfl⟩ := List.getElem_of_mem mem
  simp

theorem drop_finRange_cons {n p : Nat} (h : p < n) :
    (List.finRange n).drop p = ⟨p, h⟩ :: (List.finRange n).drop (p + 1) := by
  rw [List.drop_eq_getElem_cons (by simpa using h)]
  simp

/-- `find_nearest_fingers` fills up from the target's bucket and the buckets above it before it
looks at those below, which are closer: once the former hold `bucket_size` public fingers, a
finger of a lower bucket is left out though it is closer to the target than a finger returned
from a higher bucket. -/
theorem findNearestFingers_passes_over_closer (node : Node Bucket) (placed : BucketsPlaced ops node)
    {target : IdType} {p i j : Fin 256} (targetBucket : node.differsAtBit target = some p) (below : i < p) (above : p < j)
    {f g : NodeContactInfo} (lower : f ∈ ops.publicFingers (node.buckets i))
    (higher : g ∈ ops.publicFingers (node.buckets j))
    (taken : g ∈ (((List.finRange 256).drop p).flatMap fun m => ops.publicFingers (node.buckets m)).take node.bucketSize)
    (full : node.bucketSize ≤ (((List.finRange 256).drop p).flatMap fun m => ops.publicFingers (node.buckets m)).length) :
    g ∈ node.findNearestFingers ops target ∧ f ∉ node.findNearestFingers ops target ∧
      distance target f.nodeId < distance target g.nodeId := by
  have result : node.findNearestFingers ops target =
      (((List.finRange 256).drop p).flatMap fun m => ops.publicFingers (node.buckets m)).take node.bucketSize := by
    rw [findNearestFingers_eq ops targetBucket,bucketOrder,List.flatMap_append,List.take_append_of_le_length full]
  have fPlaced := placed i f (ops.publicFingers_subset _ lower)
  refine ⟨result ▸ taken, fun mem => ?_,
    distance_lt_of_buckets_around targetBucket fPlaced (placed j g (ops.publicFingers_subset _ higher)) below above⟩
  rw [result] at mem
  obtain ⟨m, inUpper, held⟩ := List.mem_flatMap.mp (List.mem_of_mem_take mem)
  have same : m = i := Option.some.inj ((placed m f (ops.publicFingers_subset _ held)).symm.trans fPlaced)
  have := le_of_mem_drop_finRange inUpper
  rw [same] at this
  exact absurd below (Fin.not_lt.mpr this)

/-- The id whose last byte is `b` and whose other bytes are zero. -/
def lowId (b : UInt8) : IdType := ⟨List.replicate 31 0 ++ [b], by simp⟩

/-- The node with id 0 and bucket size 1 after it found the nodes 1 and 4 helpful. -/
def lowNode : Node (List NodeContactInfo) :=
  runNodeOps BucketOps.list [.markNodeHelpful ⟨lowId 1, ⟨none, none⟩⟩, .markNodeHelpful ⟨lowId 4, ⟨none, none⟩⟩]
    (Node.new BucketOps.list (lowId 0) ⟨none, none⟩ 1)

/-- Node 1 sits in bucket 0 and node 4 in bucket 2; the other buckets are empty. -/
theorem lowNode_buckets : lowNode.buckets =
    Function.update (Function.update (fun _ => []) 0 [⟨lowId 1, ⟨none, none⟩⟩]) 2 [⟨lowId 4, ⟨none, none⟩⟩] := by
  have one : differsAtBit (lowId 0) (lowId 1) = some 0 := differsAtBit_eq_some_iff.mpr ⟨by decide, by decide⟩
  have four : differsAtBit (lowId 0) (lowId 4) = some 2 := differsAtBit_eq_some_iff.mpr ⟨by decide, by decide⟩
  let start : Node (List NodeContactInfo) := Node.new BucketOps.list (lowId 0) ⟨none, none⟩ 1
  let first := start.markNodeHelpful BucketOps.list ⟨lowId 1, ⟨none, none⟩⟩
  have firstBuckets : first.buckets = Function.update start.buckets 0 [⟨lowId 1, ⟨none, none⟩⟩] :=
    Node.buckets_updateBucket _ (show start.differsAtBit (lowId 1) = some 0 from one)
  have buckets : lowNode.buckets = Function.update first.buckets 2
      (BucketOps.list.markHelpful (first.buckets 2) ⟨lowId 4, ⟨none, none⟩⟩ false) :=
    Node.buckets_updateBucket (BucketOps.list.markHelpful · ⟨lowId 4, ⟨none, none⟩⟩ false)
      (show differsAtBit (start.updateBucket (lowId 1) (BucketOps.list.markHelpful · ⟨lowId 1, ⟨none, none⟩⟩ false)).nodeId
        (lowId 4) = some 2 by rw [Node.nodeId_updateBucket]; exact four)
  rw [buckets,firstBuckets,Function.update_noteq (by decide)]
  rfl

theorem findNearestFingers_passes_over_closer_low_ids :
    (⟨lowId 4, ⟨none, none⟩⟩ : NodeContactInfo) ∈ lowNode.findNearestFingers BucketOps.list (lowId 2) ∧
      (⟨lowId 1, ⟨none, none⟩⟩ : NodeContactInfo) ∉ lowNode.findNearestFingers BucketOps.list (lowId 2) ∧
      distance (lowId 2) (lowId 1) < distance (lowId 2) (lowId 4) := by
  have two : differsAtBit (lowId 0) (lowId 2) = some 1 := differsAtBit_eq_some_iff.mpr ⟨by decide, by decide⟩
  have atOne : lowNode.buckets 1 = [] := by
    rw [lowNode_buckets,Function.update_noteq (by decide),Function.update_noteq (by decide)]
  have atTwo : lowNode.buckets 2 = [⟨lowId 4, ⟨none, none⟩⟩] := by
    rw [lowNode_buckets,Function.update_same]
  have atZero : lowNode.buckets 0 = [⟨lowId 1, ⟨none, none⟩⟩] := by
    rw [lowNode_buckets,Function.update_noteq (by decide),Function.update_same]
  have upper : (((List.finRange 256).drop 1).flatMap fun m => BucketOps.list.publicFingers (lowNode.buckets m)).take 1 =
      [⟨lowId 4, ⟨none, none⟩⟩] := by
    rw [drop_finRange_cons (by decide : 1 < 256),drop_finRange_cons (by decide : 2 < 256),List.flatMap_cons,
      List.flatMap_cons]
    show List.take 1 (lowNode.buckets 1 ++ (lowNode.buckets 2 ++ _)) = _
    rw [atOne,atTwo]
    rfl
  have placed : BucketsPlaced BucketOps.list lowNode := (BucketsPlaced.new (lowId 0) ⟨none, none⟩ 1).run _
  have targetBucket : lowNode.differsAtBit (lowId 2) = some 1 := by
    rw [Node.differsAtBit,lowNode,nodeId_runNodeOps]; exact two
  have size : lowNode.bucketSize = 1 := bucketSize_runNodeOps _ _ _
  have upperMem := upper ▸ List.mem_singleton_self (⟨lowId 4, ⟨none, none⟩⟩ : NodeContactInfo)
  exact findNearestFingers_passes_over_closer BucketOps.list lowNode placed targetBucket (by decide) (by decide)
    (atZero ▸ List.mem_singleton_self _) (atTwo ▸ List.mem_singleton_self _) (size ▸ upperMem)
    (size ▸ List.length_pos_of_mem (List.mem_of_mem_take upperMem))

end Nearest

end StoneNet
