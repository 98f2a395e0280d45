import StoneNet.Node.Candidates

/-! `find_node_from_fingers`, the iterative FIND_NODE lookup. The network is a stream of
answers, one for each peer the loop dials, so every outcome a peer or a failure can produce is
an input. The `while` loop is one pass (`findNodeIteration`) run on fuel; a measure of the
visits left and the queue length shows how much fuel is enough. -/
namespace StoneNet

/-- `FindNodeResponse`, with the fields the lookups read; `is_super_node` only decides whether
`remember_super_node` is called and is left out. -/
structure FindNodeResponse where
  connection : Option NodeContactInfo
  fingers : List NodeContactInfo
  deriving DecidableEq

/-- One contact of `extract_fingers_from_response`: the option `pick_contact_option` gives it,
unless a visited entry has that option. -/
def extractFinger (sockets : SocketCollection) (visited : List (IdType × ContactOption)) (f : NodeContactInfo) :
    Option (NodeContactInfo × ContactStrategy) :=
  match sockets.pickContactOption f.contactInfo with
  | none => none
  | some (option, openness) =>
    if visited.any (·.2 == option) then none else (ContactStrategy.new option openness).map (f, ·)

/-- `Node::extract_fingers_from_response`: the response's fingers, then its connection. -/
def extractFingersFromResponse (sockets : SocketCollection) (response : FindNodeResponse)
    (visited : List (IdType × ContactOption)) : List (NodeContactInfo × ContactStrategy) :=
  response.fingers.filterMap (extractFinger sockets visited) ++
    response.connection.toList.filterMap (extractFinger sockets visited)

/-- What `find_node_from_fingers` gets from dialing a candidate: no connection, a connection on
which the FIND_NODE exchange fails, or a response. -/
inductive FindNodeAnswer where
  | unreachable
  | noResponse
  | response (response : FindNodeResponse)
  deriving DecidableEq

/-- The variables of the loop of `find_node_from_fingers`. -/
structure FindNodeState where
  visited : List (IdType × ContactOption)
  candidates : List Candidate
  found : List Candidate
  i : Nat
  deriving DecidableEq

/-- How a pass of a lookup loop ends: with another pass, or leaving the loop (`break`, or a
`return` with its value). -/
inductive Pass (σ ρ : Type) where
  | next (state : σ)
  | exit (state : σ) (result : ρ)

def Pass.state {σ ρ : Type} : Pass σ ρ → σ
  | .next state => state
  | .exit state _ => state

/-- `P` holds of the state a pass goes on with, `Q` of the state it leaves the loop with. -/
def Pass.Holds {σ ρ : Type} (P Q : σ → Prop) : Pass σ ρ → Prop
  | .next state => P state
  | .exit state _ => Q state

section FindNode

variable {Bucket : Type} (node : Node Bucket) (answer : Nat → FindNodeAnswer) (id : IdType) (resultLimit : Nat)

/-- The `retain` of `find_node_from_fingers`: fingers reached directly, other than the node
itself, strictly closer to `id` than the candidate that gave them. -/
def closerFingers (candidateDist : Nat) (fingers : List (NodeContactInfo × ContactStrategy)) :
    List (NodeContactInfo × ContactStrategy) :=
  fingers.filter fun (f, strat) =>
    if f.nodeId = node.nodeId then false
    else if strat.method ≠ .direct then false
    else distance id f.nodeId < candidateDist

/-- One pass of the loop of `find_node_from_fingers` with `candidates = c :: rest`: a candidate
whose id was visited is popped; otherwise it is dialed, as the `i`-th dial, and left in place. A
response's closer fingers join `found` and, unless one of them is `id` itself, the queue. -/
def findNodeIteration (s : FindNodeState) (c : Candidate) (rest : List Candidate) : Pass FindNodeState Unit :=
  if s.visited.any (·.1 == c.contact.nodeId) then .next { s with candidates := rest }
  else
    let visited := s.visited ++ [(c.contact.nodeId, c.strategy.contact)]
    match answer s.i with
    | .unreachable | .noResponse => .next { s with visited, i := s.i + 1 }
    | .response response =>
      let newFingers := closerFingers node id c.dist (extractFingersFromResponse node.sockets response visited)
      let found := (appendCandidates id s.found newFingers).take resultLimit
      if newFingers.any (·.1.nodeId == id) then .exit { s with visited, found } ()
      else .next ⟨visited, (appendCandidates id (c :: rest) newFingers).take node.bucketSize, found, s.i + 1⟩

variable (visitLimit : Nat)

/-- The `while` loop of `find_node_from_fingers` on at most `fuel` passes; `none` when the fuel
runs out first. -/
def findNodeLoop : Nat → FindNodeState → Option FindNodeState
  | 0, _ => none
  | fuel + 1, s =>
    match s.candidates with
    | c :: rest =>
      if s.i < visitLimit then
        match findNodeIteration node answer id resultLimit s c rest with
        | .next s => findNodeLoop fuel s
        | .exit s () => some s
      else some s
    | [] => some s

/-- The state `find_node_from_fingers` enters its loop with. -/
def findNodeStart (ownOpenness : ContactOption → Option Openness) (fingers : List NodeContactInfo) : FindNodeState :=
  let candidates := findNodeCandidates node.nodeId node.sockets ownOpenness id fingers
  ⟨[], candidates, candidates.take resultLimit, 0⟩

/-- `Node::find_node_from_fingers`, on at most `fuel` passes of its loop. -/
def Node.findNodeFromFingers (ownOpenness : ContactOption → Option Openness) (fingers : List NodeContactInfo)
    (fuel : Nat) : Option (List NodeContactInfo) :=
  (findNodeLoop node answer id resultLimit visitLimit fuel (findNodeStart node id resultLimit ownOpenness fingers)).map
    fun s => s.found.map (·.contact)

end FindNode

section Invariant

variable {Bucket : Type} (node : Node Bucket) {answer : Nat → FindNodeAnswer} (id : IdType) (resultLimit : Nat)

theorem not_own_of_mem_closerFingers {candidateDist : Nat} {fingers : List (NodeContactInfo × ContactStrategy)}
    {p : NodeContactInfo × ContactStrategy} (mem : p ∈ closerFingers node id candidateDist fingers) :
    p.1.nodeId ≠ node.nodeId := fun own => by
  simp [closerFingers,own] at mem

/-- What `find_node_from_fingers` keeps of its best set: at most `result_limit` entries at their
distance from `id`, in ascending order, none of them the node itself. -/
structure FoundValid (found : List Candidate) : Prop where
  bound : found.length ≤ resultLimit
  ascending : Ascending found
  dist : ∀ c ∈ found, c.dist = distance id c.contact.nodeId
  notOwn : ∀ c ∈ found, c.contact.nodeId ≠ node.nodeId

theorem FoundValid.append {found : List Candidate} (valid : FoundValid node id resultLimit found)
    {fingers : List (NodeContactInfo × ContactStrategy)} (notOwn : ∀ p ∈ fingers, p.1.nodeId ≠ node.nodeId) :
    FoundValid node id resultLimit ((appendCandidates id found fingers).take resultLimit) := by
  have cases {c : Candidate} (mem : c ∈ (appendCandidates id found fingers).take resultLimit) :
      c ∈ found ∨ ∃ p ∈ fingers, Candidate.ofFinger id p = c := by
    simpa using mem_appendCandidates.mp (List.mem_of_mem_take mem)
  refine ⟨List.length_take_le _ _, (appendCandidates_ascending id valid.ascending fingers).sublist (List.take_sublist _ _),
    fun c mem => ?_, fun c mem => ?_⟩
  · rcases cases mem with old | ⟨p, -, rfl⟩
    · exact valid.dist c old
    · rfl
  · rcases cases mem with old | ⟨p, inFingers, rfl⟩
    · exact valid.notOwn c old
    · exact notOwn p inFingers

variable (visitLimit bound : Nat)

/-- What holds before each pass of the loop of `find_node_from_fingers`: one visited entry per
dial, at most `visit_limit` dials, no node id visited twice, a queue within `bound`, and a valid
best set. -/
structure FindNodeInv (s : FindNodeState) : Prop where
  dials : s.visited.length = s.i
  within : s.i ≤ visitLimit
  distinct : (s.visited.map (·.1)).Nodup
  queue : s.candidates.length ≤ bound
  found : FoundValid node id resultLimit s.found

/-- What holds when the loop is left. -/
structure FindNodeResult (s : FindNodeState) : Prop where
  dials : s.visited.length ≤ visitLimit
  distinct : (s.visited.map (·.1)).Nodup
  found : FoundValid node id resultLimit s.found

/-- The visits left, each worth more than a full queue, and the queue. -/
def findNodeMeasure (s : FindNodeState) : Nat := (visitLimit - s.i) * (bound + 1) + s.candidates.length

variable {node id resultLimit visitLimit bound}

theorem FindNodeInv.result {s : FindNodeState} (inv : FindNodeInv node id resultLimit visitLimit bound s) :
    FindNodeResult node id resultLimit visitLimit s :=
  ⟨inv.dials ▸ inv.within, inv.distinct, inv.found⟩

theorem findNodeMeasure_visit {s s' : FindNodeState} (below : s.i < visitLimit) (dialed : s'.i = s.i + 1)
    (queue : s'.candidates.length ≤ bound) : findNodeMeasure visitLimit bound s' < findNodeMeasure visitLimit bound s := by
  obtain ⟨k, left⟩ : ∃ k, visitLimit - s.i = k + 1 := ⟨visitLimit - s.i - 1, by omega⟩
  have left' : visitLimit - s'.i = k := by omega
  simp only [findNodeMeasure,left,left',Nat.succ_mul]
  omega

/-- The loops test whether an id or an option was visited with `iter().find(..).is_some()`. -/
theorem any_beq_iff_mem_map {γ β : Type} [DecidableEq β] {f : γ → β} {l : List γ} {b : β} :
    l.any (fun a => f a == b) = true ↔ b ∈ l.map f := by
  simp [List.any_eq_true]

/-- One pass keeps the invariant and lowers the measure, or leaves the loop with a valid
result. -/
theorem findNodeIteration_step {s : FindNodeState} {c : Candidate} {rest : List Candidate}
    (inv : FindNodeInv node id resultLimit visitLimit bound s) (queued : s.candidates = c :: rest)
    (below : s.i < visitLimit) (big : node.bucketSize ≤ bound) :
    (findNodeIteration node answer id resultLimit s c rest).Holds
      (fun s' => FindNodeInv node id resultLimit visitLimit bound s' ∧
        findNodeMeasure visitLimit bound s' < findNodeMeasure visitLimit bound s)
      (FindNodeResult node id resultLimit visitLimit) := by
  unfold findNodeIteration
  split
  · -- a visited id is popped
    have shorter : rest.length < s.candidates.length := by rw [queued]; exact Nat.lt_succ_self _
    exact ⟨{ inv with queue := Nat.le_trans (Nat.le_of_lt shorter) inv.queue }, by
      simp only [findNodeMeasure]; omega⟩
  · next fresh =>
    have distinct : ((s.visited ++ [(c.contact.nodeId, c.strategy.contact)]).map (·.1)).Nodup := by
      rw [List.map_append,List.map_singleton,← List.concat_eq_append]
      exact inv.distinct.concat (mt any_beq_iff_mem_map.mpr fresh)
    have dials : (s.visited ++ [(c.contact.nodeId, c.strategy.contact)]).length = s.i + 1 := by
      rw [List.length_append,inv.dials]; rfl
    split
    · exact ⟨⟨dials, below, distinct, inv.queue, inv.found⟩, findNodeMeasure_visit below rfl inv.queue⟩
    · exact ⟨⟨dials, below, distinct, inv.queue, inv.found⟩, findNodeMeasure_visit below rfl inv.queue⟩
    · next _ response _ =>
      have found : FoundValid node id resultLimit ((appendCandidates id s.found (closerFingers node id c.dist
          (extractFingersFromResponse node.sockets response (s.visited ++ [(c.contact.nodeId, c.strategy.contact)])))).take
            resultLimit) :=
        FoundValid.append node id resultLimit inv.found fun _ mem => not_own_of_mem_closerFingers node id mem
      dsimp only
      split
      · exact ⟨dials ▸ below, distinct, found⟩
      · have queue {l : List Candidate} : (l.take node.bucketSize).length ≤ bound :=
          Nat.le_trans (List.length_take_le _ _) big
        exact ⟨⟨dials, below, distinct, queue, found⟩, findNodeMeasure_visit below rfl queue⟩

/-- With more fuel than the measure the loop ends, with a valid result. -/
theorem findNodeLoop_result (big : node.bucketSize ≤ bound) :
    ∀ (fuel : Nat) (s : FindNodeState), FindNodeInv node id resultLimit visitLimit bound s →
      findNodeMeasure visitLimit bound s < fuel →
      ∃ s', findNodeLoop node answer id resultLimit visitLimit fuel s = some s' ∧
        FindNodeResult node id resultLimit visitLimit s'
  | 0, _, _, enough => absurd enough (Nat.not_lt_zero _)
  | fuel + 1, s, inv, enough => by
    unfold findNodeLoop
    split
    · next c rest queued =>
      split
      · next below =>
        have step : (findNodeIteration node answer id resultLimit s c rest).Holds _ _ :=
          findNodeIteration_step inv queued below big
        rcases passed : findNodeIteration node answer id resultLimit s c rest with s' | ⟨s', ⟨⟩⟩ <;>
          rw [passed] at step
        · exact findNodeLoop_result big fuel s' step.1 (by have := step.2; omega)
        · exact ⟨s', rfl, step⟩
      · exact ⟨s, rfl, inv.result⟩
    · exact ⟨s, rfl, inv.result⟩

/-- Once the loop has ended on some fuel, more fuel ends it the same way. -/
theorem findNodeLoop_add_fuel {fuel : Nat} {s s' : FindNodeState}
    (ended : findNodeLoop node answer id resultLimit visitLimit fuel s = some s') (more : Nat) :
    findNodeLoop node answer id resultLimit visitLimit (fuel + more) s = some s' := by
  induction fuel generalizing s with
  | zero => cases ended
  | succ fuel ih =>
    rw [Nat.add_right_comm]
    unfold findNodeLoop at ended ⊢
    split at ended
    · next c rest _ =>
      split at ended
      · next below =>
        rw [if_pos below]
        rcases passed : findNodeIteration node answer id resultLimit s c rest with s₁ | ⟨s₁, ⟨⟩⟩ <;>
          rw [passed] at ended
        · exact ih ended
        · exact ended
      · next above => rw [if_neg above]; exact ended
    · exact ended

variable (node answer id resultLimit visitLimit)

/-- The seeded state keeps the invariant, with a bound that allows its queue. -/
theorem findNodeStart_inv (ownOpenness : ContactOption → Option Openness) (fingers : List NodeContactInfo) :
    FindNodeInv node id resultLimit visitLimit
      (max (findNodeCandidates node.nodeId node.sockets ownOpenness id fingers).length node.bucketSize)
      (findNodeStart node id resultLimit ownOpenness fingers) := by
  have seeds {c} (mem : c ∈ (findNodeCandidates node.nodeId node.sockets ownOpenness id fingers).take resultLimit) :=
    mem_findNodeCandidates (List.mem_of_mem_take mem)
  exact ⟨rfl, Nat.zero_le _, List.nodup_nil, Nat.le_max_left _ _,
    ⟨List.length_take_le _ _, (findNodeCandidates_ascending _ _ _ id fingers).sublist (List.take_sublist _ _),
      fun _ mem => (seeds mem).1, fun _ mem => (seeds mem).2⟩⟩

/-- `find_node_from_fingers` returns: from the seeded state the loop ends within
`(visit_limit + 1) * (bound + 1)` passes, where `bound` is the larger of the seeded queue's
length and `bucket_size`, with the same state on any more fuel. -/
theorem findNodeLoop_terminates (ownOpenness : ContactOption → Option Openness) (fingers : List NodeContactInfo) :
    let bound := max (findNodeCandidates node.nodeId node.sockets ownOpenness id fingers).length node.bucketSize
    ∃ s, (∀ fuel, (visitLimit + 1) * (bound + 1) ≤ fuel →
        findNodeLoop node answer id resultLimit visitLimit fuel (findNodeStart node id resultLimit ownOpenness fingers) =
          some s) ∧
      FindNodeResult node id resultLimit visitLimit s := by
  intro bound
  have inv : FindNodeInv node id resultLimit visitLimit bound (findNodeStart node id resultLimit ownOpenness fingers) :=
    findNodeStart_inv node id resultLimit visitLimit ownOpenness fingers
  have enough : findNodeMeasure visitLimit bound (findNodeStart node id resultLimit ownOpenness fingers) <
      (visitLimit + 1) * (bound + 1) := by
    have queue := inv.queue
    simp only [findNodeMeasure,findNodeStart,Nat.sub_zero,Nat.succ_mul] at queue ⊢
    omega
  obtain ⟨s, ended, result⟩ := findNodeLoop_result (Nat.le_max_right _ _) _ _ inv enough
  refine ⟨s, fun fuel more => ?_, result⟩
  obtain ⟨k, rfl⟩ := Nat.exists_eq_add_of_le more
  exact findNodeLoop_add_fuel ended k

/-- What `find_node_from_fingers` returns for every answer the network gives: at most
`result_limit` contacts, in ascending order of distance from `id`, none of them the node itself. -/
theorem findNodeFromFingers_sorted (ownOpenness : ContactOption → Option Openness) (fingers : List NodeContactInfo) :
    ∃ contacts, (∀ fuel, (visitLimit + 1) *
        (max (findNodeCandidates node.nodeId node.sockets ownOpenness id fingers).length node.bucketSize + 1) ≤ fuel →
        node.findNodeFromFingers answer id resultLimit visitLimit ownOpenness fingers fuel = some contacts) ∧
      contacts.length ≤ resultLimit ∧ (contacts.map fun c => distance id c.nodeId).Sorted (· ≤ ·) ∧
      ∀ c ∈ contacts, c.nodeId ≠ node.nodeId := by
  obtain ⟨s, ended, result⟩ := findNodeLoop_terminates node answer id resultLimit visitLimit ownOpenness fingers
  have valid := result.found
  refine ⟨s.found.map (·.contact), fun fuel more => by rw [Node.findNodeFromFingers,ended fuel more]; rfl,
    (List.length_map _ _).trans_le valid.bound, ?_, ?_⟩
  · rw [List.map_map]
    exact sorted_distance_of_ascending valid.ascending valid.dist
  · simp only [List.mem_map]
    rintro _ ⟨c, mem, rfl⟩
    exact valid.notOwn c mem

end Invariant

/-- A node with id 0 whose server has an IPv4 UDP socket. -/
def udpNode : Node (List NodeContactInfo) := Node.new BucketOps.list (lowId 0) ⟨some ⟨true, false⟩, none⟩ 20

/-- A contact reachable both ways over IPv4 UDP at `port`. -/
def udpContact (id : IdType) (port : UInt16) : NodeContactInfo :=
  ⟨id, ⟨some ⟨FixedBytes.replicate 4 0, ⟨some ⟨port, .bidirectional⟩, none⟩⟩, none⟩⟩

/-- `extract_fingers_from_response` compares a finger's option only with the visited ones, so a
peer that lists a closer finger twice gets it into the best set twice. -/
theorem findNodeFromFingers_duplicates :
    udpNode.findNodeFromFingers (fun _ => .response ⟨none, [udpContact (lowId 3) 2, udpContact (lowId 3) 2]⟩) (lowId 2) 2 1
      (fun _ => none) [udpContact (lowId 7) 1] 2 = some [udpContact (lowId 3) 2, udpContact (lowId 3) 2] := by
  rw [Node.findNodeFromFingers,findNodeStart,findNodeCandidates,sortFingers_singleton]
  rfl

end StoneNet
