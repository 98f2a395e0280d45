import StoneNet.Node.FindNode

/-! `FindValueIter`, the resumable FIND_VALUE lookup that `find_value_from_fingers_iter` builds.
The iterator keeps its visited options and its candidate queue between calls of `next`; a call
runs the `while` loop, one pass per candidate it pops, until a verified value comes back, the
queue is empty or `visit_limit` options are visited. The network and the verifier are inputs, so
a pass may see any outcome, and without `narrow_down` a response may add any number of fingers
to the queue. -/
namespace StoneNet

/-- What a pass of `FindValueIter::next` gets from dialing a candidate: no connection
(`connect_by_strategy` gives `None`), a connection on which the exchange fails, or the value and
contacts that `exchange_find_value_on_connection` returns. -/
inductive FindValueAnswer where
  | unreachable
  | noResponse
  | response (value : Option Bytes) (contacts : Option FindNodeResponse)
  deriving DecidableEq

/-- The fields of `FindValueIter` that `next` changes; the others are fixed when the iterator is
built and are parameters here. The capacity of `visited` is `visit_limit`: `Vec::with_capacity`
gives exactly the capacity asked for, and `next` never pushes past it. -/
structure FindValueIter where
  visited : List (IdType × ContactOption)
  candidates : List Candidate
  deriving DecidableEq

section FindValue

variable {Bucket : Type} (node : Node Bucket) (id : IdType) (narrowDown useRelays : Bool)

/-- `Node::find_value_from_fingers_iter`: the sorted fingers the node has a way to reach, and
nothing visited. -/
def Node.findValueFromFingersIter (ownOpenness : ContactOption → Option Openness) (fingers : List NodeContactInfo) :
    FindValueIter :=
  ⟨[], findValueCandidates node.sockets ownOpenness id fingers⟩

/-- The queue after a response with `contacts`: the fingers whose option is not visited, with
`narrow_down` only those strictly closer to `id` than the candidate, merged in; with
`narrow_down` the queue is then cut to `bucket_size`. -/
def mergeResponse (visited : List (IdType × ContactOption)) (c : Candidate) (rest : List Candidate) :
    Option FindNodeResponse → List Candidate
  | none => rest
  | some response =>
    let newFingers := extractFingersFromResponse node.sockets response visited
    let newFingers := if narrowDown then newFingers.filter fun (f, _) => distance id f.nodeId < c.dist else newFingers
    let candidates := appendCandidates id rest newFingers
    if narrowDown then candidates.take node.bucketSize else candidates

variable {α : Type} (answer : Nat → FindValueAnswer) (doVerify : IdType → NodeContactInfo → Bytes → Option α)

/-- One pass of the loop of `FindValueIter::next` with `candidates = c :: rest`. The candidate is
popped. Unless it is the node itself or its option was visited, the option is pushed to
`visited`, as entry `visited.len()`, and unless it is a relay candidate while relays are off, it
is dialed. A value that `do_verify` accepts ends the call. -/
def findValueIteration (it : FindValueIter) (c : Candidate) (rest : List Candidate) : Pass FindValueIter α :=
  if c.contact.nodeId = node.nodeId then .next ⟨it.visited, rest⟩
  else if it.visited.any (·.2 == c.strategy.contact) then .next ⟨it.visited, rest⟩
  else
    let visited := it.visited ++ [(c.contact.nodeId, c.strategy.contact)]
    if c.strategy.method = .relay ∧ ¬useRelays then .next ⟨visited, rest⟩
    else
      match answer it.visited.length with
      | .unreachable | .noResponse => .next ⟨visited, rest⟩
      | .response value contacts =>
        let candidates := mergeResponse node id narrowDown visited c rest contacts
        match value.bind (doVerify id c.contact) with
        | some result => .exit ⟨visited, candidates⟩ result
        | none => .next ⟨visited, candidates⟩

variable (visitLimit : Nat)

/-- `FindValueIter::next`, its `while` loop on at most `fuel` passes with `visit_limit` as the
capacity of `visited`: the value it returns and the iterator it leaves, or `none` when the fuel
runs out first. -/
def FindValueIter.next : Nat → FindValueIter → Option (Option α × FindValueIter)
  | 0, _ => none
  | fuel + 1, it =>
    match it.candidates with
    | c :: rest =>
      if it.visited.length < visitLimit then
        match findValueIteration node id narrowDown useRelays answer doVerify it c rest with
        | .next it => FindValueIter.next fuel it
        | .exit it result => some (some result, it)
      else some (none, it)
    | [] => some (none, it)

/-- `Node::find_value_from_fingers`: the first call of `next` on the iterator
`find_value_from_fingers_iter` builds. -/
def Node.findValueFromFingers (ownOpenness : ContactOption → Option Openness) (fingers : List NodeContactInfo)
    (fuel : Nat) : Option (Option α) :=
  (FindValueIter.next node id narrowDown useRelays answer doVerify visitLimit fuel
    (node.findValueFromFingersIter id ownOpenness fingers)).map (·.1)

end FindValue

section Invariant

variable {Bucket : Type} (node : Node Bucket) (id : IdType) (narrowDown useRelays : Bool) (α : Type) (visitLimit : Nat)

/-- What holds of the iterator before each pass of `next`: at most `visit_limit` options
visited, none twice, the node itself never visited, and a queue in ascending order of distance
from `id`. -/
structure FindValueInv (it : FindValueIter) : Prop where
  within : it.visited.length ≤ visitLimit
  options : (it.visited.map (·.2)).Nodup
  notOwn : ∀ v ∈ it.visited, v.1 ≠ node.nodeId
  ascending : Ascending it.candidates
  dist : ∀ c ∈ it.candidates, c.dist = distance id c.contact.nodeId

/-- The iterators `next` works on: the one `find_value_from_fingers_iter` builds, and the one
each pass leaves, whatever the network answers and the verifier returns. -/
inductive FindValueReach : FindValueIter → Prop
  | start (ownOpenness : ContactOption → Option Openness) (fingers : List NodeContactInfo) :
    FindValueReach (node.findValueFromFingersIter id ownOpenness fingers)
  | pass {it : FindValueIter} {c : Candidate} {rest : List Candidate} (answer : Nat → FindValueAnswer)
    (doVerify : IdType → NodeContactInfo → Bytes → Option α) :
    FindValueReach it → it.candidates = c :: rest → it.visited.length < visitLimit →
    FindValueReach (findValueIteration node id narrowDown useRelays answer doVerify it c rest).state

variable {node id narrowDown α visitLimit}

/-- An entry of a merged queue is an old one, or a finger at its distance from `id`, strictly
closer than the candidate under `narrow_down`. -/
theorem mem_mergeResponse {visited : List (IdType × ContactOption)} {c d : Candidate} {rest : List Candidate}
    {contacts : Option FindNodeResponse} (mem : d ∈ mergeResponse node id narrowDown visited c rest contacts) :
    d ∈ rest ∨ d.dist = distance id d.contact.nodeId ∧ (narrowDown = true → d.dist < c.dist) := by
  cases contacts with
  | none => exact .inl mem
  | some response =>
    have merged : ∃ fingers : List (NodeContactInfo × ContactStrategy), d ∈ appendCandidates id rest fingers ∧
        (narrowDown = true → ∀ f ∈ fingers, distance id f.1.nodeId < c.dist) := by
      rw [mergeResponse] at mem
      dsimp only at mem
      split at mem
      · exact ⟨_, List.mem_of_mem_take mem, fun _ _ picked => of_decide_eq_true (List.mem_filter.mp picked).2⟩
      · exact ⟨_, mem, fun narrowed => absurd narrowed ‹_›⟩
    obtain ⟨fingers, merged, closer⟩ := merged
    rcases mem_appendCandidates.mp merged with old | new
    · exact .inl old
    · obtain ⟨f, picked, rfl⟩ := List.mem_map.mp new
      exact .inr ⟨rfl, fun narrowed => closer narrowed f picked⟩

theorem mergeResponse_ascending {visited : List (IdType × ContactOption)} {c : Candidate} {rest : List Candidate}
    (sorted : Ascending rest) (contacts : Option FindNodeResponse) :
    Ascending (mergeResponse node id narrowDown visited c rest contacts) := by
  cases contacts with
  | none => exact sorted
  | some response =>
    rw [mergeResponse]
    dsimp only
    split
    · exact (appendCandidates_ascending id sorted _).sublist (List.take_sublist _ _)
    · exact appendCandidates_ascending id sorted _

variable (node id narrowDown) (answer : Nat → FindValueAnswer) (doVerify : IdType → NodeContactInfo → Bytes → Option α)

/-- All a pass can do to the iterator: drop the candidate, when it is the node itself or its
option was visited; or push its option to `visited` and go on with a merged queue. -/
theorem findValueIteration_cases (it : FindValueIter) (c : Candidate) (rest : List Candidate) :
    (c.contact.nodeId = node.nodeId ∨ c.strategy.contact ∈ it.visited.map (·.2)) ∧
      (findValueIteration node id narrowDown useRelays answer doVerify it c rest).state = ⟨it.visited, rest⟩ ∨
    c.contact.nodeId ≠ node.nodeId ∧ c.strategy.contact ∉ it.visited.map (·.2) ∧
      (findValueIteration node id narrowDown useRelays answer doVerify it c rest).state.visited =
        it.visited ++ [(c.contact.nodeId, c.strategy.contact)] ∧
      ∃ contacts, (findValueIteration node id narrowDown useRelays answer doVerify it c rest).state.candidates =
        mergeResponse node id narrowDown (it.visited ++ [(c.contact.nodeId, c.strategy.contact)]) c rest contacts := by
  unfold findValueIteration
  by_cases own : c.contact.nodeId = node.nodeId
  · exact .inl ⟨.inl own, by rw [if_pos own]; rfl⟩
  by_cases seen : c.strategy.contact ∈ it.visited.map (·.2)
  · exact .inl ⟨.inr seen, by rw [if_neg own,if_pos (any_beq_iff_mem_map.mpr seen)]; rfl⟩
  refine .inr ⟨own, seen, ?_⟩
  rw [if_neg own,if_neg (mt any_beq_iff_mem_map.mp seen)]
  dsimp only
  split
  · exact ⟨rfl, none, rfl⟩ -- a relay candidate while relays are off
  split
  · exact ⟨rfl, none, rfl⟩ -- no connection
  · exact ⟨rfl, none, rfl⟩ -- no response
  · next contacts _ => split <;> exact ⟨rfl, contacts, rfl⟩

variable {node id narrowDown useRelays answer doVerify}

/-- A pass that goes on leaves the visited options as they were and pops the queue, or visits
one more. -/
theorem findValueIteration_progress {it it₁ : FindValueIter} {c : Candidate} {rest : List Candidate}
    (passed : findValueIteration node id narrowDown useRelays answer doVerify it c rest = .next it₁) :
    it₁.visited = it.visited ∧ it₁.candidates = rest ∨ it₁.visited.length = it.visited.length + 1 := by
  have cases := findValueIteration_cases node id narrowDown useRelays answer doVerify it c rest
  rw [passed] at cases
  rcases cases with ⟨-, same⟩ | ⟨-, -, visited, -⟩
  · cases (same : it₁ = _)
    exact .inl ⟨rfl, rfl⟩
  · exact .inr (by rw [show it₁.visited = _ from visited,List.length_append]; rfl)

/-- One pass keeps the invariant. -/
theorem findValueIteration_inv {it : FindValueIter} {c : Candidate} {rest : List Candidate}
    (inv : FindValueInv node id visitLimit it) (queued : it.candidates = c :: rest) (below : it.visited.length < visitLimit) :
    FindValueInv node id visitLimit (findValueIteration node id narrowDown useRelays answer doVerify it c rest).state := by
  have sorted : Ascending rest := (List.pairwise_cons.mp (queued ▸ inv.ascending)).2
  have restDist : ∀ d ∈ rest, d.dist = distance id d.contact.nodeId :=
    fun d mem => inv.dist d (queued ▸ List.mem_cons_of_mem c mem)
  rcases findValueIteration_cases node id narrowDown useRelays answer doVerify it c rest with
    ⟨-, same⟩ | ⟨own, seen, visited, contacts, queue⟩
  · rw [same]
    exact ⟨inv.within, inv.options, inv.notOwn, sorted, restDist⟩
  · refine ⟨?_, ?_, fun v mem => ?_, ?_, fun d mem => ?_⟩
    · rw [visited,List.length_append]; exact below
    · rw [visited,List.map_append,List.map_singleton,← List.concat_eq_append]
      exact inv.options.concat seen
    · rcases List.mem_append.mp (visited ▸ mem) with old | new
      · exact inv.notOwn v old
      · exact List.mem_singleton.mp new ▸ own
    · rw [queue]; exact mergeResponse_ascending sorted contacts
    · rcases mem_mergeResponse (queue ▸ mem) with old | ⟨dist, -⟩
      · exact restDist d old
      · exact dist

theorem findValueFromFingersIter_inv (ownOpenness : ContactOption → Option Openness) (fingers : List NodeContactInfo) :
    FindValueInv node id visitLimit (node.findValueFromFingersIter id ownOpenness fingers) :=
  ⟨Nat.zero_le _, List.nodup_nil, fun _ absent => (nomatch absent), findValueCandidates_ascending _ _ id fingers,
    fun _ mem => mem_findValueCandidates mem⟩

/-- Every iterator `next` works on keeps the invariant. -/
theorem FindValueReach.inv {it : FindValueIter} (reach : FindValueReach node id narrowDown useRelays α visitLimit it) :
    FindValueInv node id visitLimit it := by
  induction reach with
  | start ownOpenness fingers => exact findValueFromFingersIter_inv ownOpenness fingers
  | pass _ _ _ queued below inv => exact findValueIteration_inv inv queued below

/-- A call of `next` leaves an iterator that later calls work on. -/
theorem next_reach {it it' : FindValueIter} {result : Option α} (reach : FindValueReach node id narrowDown useRelays α visitLimit it) :
    ∀ {fuel}, FindValueIter.next node id narrowDown useRelays answer doVerify visitLimit fuel it = some (result, it') →
      FindValueReach node id narrowDown useRelays α visitLimit it'
  | 0, ended => by cases ended
  | fuel + 1, ended => by
    unfold FindValueIter.next at ended
    split at ended
    · next c rest queued =>
      split at ended
      · next below =>
        have after := FindValueReach.pass answer doVerify reach queued below
        rcases passed : findValueIteration node id narrowDown useRelays answer doVerify it c rest with it₁ | ⟨it₁, r⟩ <;>
          rw [passed] at ended after
        · exact next_reach after ended
        · cases ended; exact after
      · cases ended; exact reach
    · cases ended; exact reach

/-- Once a call of `next` has returned on some fuel, more fuel returns the same. -/
theorem next_add_fuel {fuel : Nat} {it : FindValueIter} {r : Option α × FindValueIter}
    (ended : FindValueIter.next node id narrowDown useRelays answer doVerify visitLimit fuel it = some r) (more : Nat) :
    FindValueIter.next node id narrowDown useRelays answer doVerify visitLimit (fuel + more) it = some r := by
  induction fuel generalizing it with
  | zero => cases ended
  | succ fuel ih =>
    rw [Nat.add_right_comm]
    unfold FindValueIter.next at ended ⊢
    split at ended
    · next c rest _ =>
      split at ended
      · next below =>
        rw [if_pos below]
        rcases passed : findValueIteration node id narrowDown useRelays answer doVerify it c rest with it₁ | ⟨it₁, _⟩ <;>
          rw [passed] at ended
        · exact ih ended
        · exact ended
      · next above => rw [if_neg above]; exact ended
    · exact ended

/-- A call of `next` returns once each pass that goes on leads to an iterator on which a call
returns. -/
theorem next_ends_of_pass {it : FindValueIter}
    (later : ∀ c rest it₁, it.candidates = c :: rest → it.visited.length < visitLimit →
      findValueIteration node id narrowDown useRelays answer doVerify it c rest = .next it₁ →
      ∃ fuel r, FindValueIter.next node id narrowDown useRelays answer doVerify visitLimit fuel it₁ = some r) :
    ∃ fuel r, FindValueIter.next node id narrowDown useRelays answer doVerify visitLimit fuel it = some r := by
  rcases queued : it.candidates with _ | ⟨c, rest⟩
  · exact ⟨1, (none, it), by simp only [FindValueIter.next,queued]⟩
  by_cases below : it.visited.length < visitLimit
  · rcases passed : findValueIteration node id narrowDown useRelays answer doVerify it c rest with it₁ | ⟨it₁, result⟩
    · obtain ⟨fuel, r, ended⟩ := later c rest it₁ queued below passed
      exact ⟨fuel + 1, r, by simp only [FindValueIter.next,queued,below,passed,↓reduceIte,ended]⟩
    · exact ⟨1, (some result, it₁), by simp only [FindValueIter.next,queued,below,passed,↓reduceIte]⟩
  · exact ⟨1, (none, it), by simp only [FindValueIter.next,queued,below,↓reduceIte]⟩

/-- Every call of `next` returns, from any iterator: a pass pops a candidate without a visit or
visits one more option, and the visits stop at `visit_limit`. -/
theorem next_ends (it : FindValueIter) :
    ∃ fuel r, FindValueIter.next node id narrowDown useRelays answer doVerify visitLimit fuel it = some r := by
  obtain ⟨m, left⟩ : ∃ m, visitLimit - it.visited.length = m := ⟨_, rfl⟩
  induction m using Nat.strong_induction_on generalizing it with
  | _ m visits =>
    obtain ⟨n, queue⟩ : ∃ n, it.candidates.length = n := ⟨_, rfl⟩
    induction n using Nat.strong_induction_on generalizing it with
    | _ n pops =>
      refine next_ends_of_pass fun c rest it₁ queued below passed => ?_
      rcases findValueIteration_progress passed with ⟨same, popped⟩ | visited
      · refine pops rest.length ?_ it₁ (by rw [same]; exact left) (by rw [popped])
        rw [← queue,queued]
        exact Nat.lt_succ_self _
      · exact visits _ (by omega) it₁ rfl

end Invariant

section Lifetime

variable {Bucket : Type} (node : Node Bucket) (id : IdType) (narrowDown useRelays : Bool) (α : Type) (visitLimit : Nat)

/-- The life of a FIND_VALUE iterator, over every call of `next` and every answer of the
network and the verifier: at most `visit_limit` options visited, none twice, never the node
itself, and a queue sorted by distance from `id`. A pass drops the front candidate when it is the
node itself or its option was visited, and otherwise visits it, and then no remaining candidate is
closer. Under `narrow_down` every candidate a response adds is strictly closer than the one that
answered. -/
theorem findValueIter_invariant :
    (∀ it, FindValueReach node id narrowDown useRelays α visitLimit it →
      it.visited.length ≤ visitLimit ∧ (it.visited.map (·.2)).Nodup ∧ (∀ v ∈ it.visited, v.1 ≠ node.nodeId) ∧
        (it.candidates.map fun c => distance id c.contact.nodeId).Sorted (· ≤ ·)) ∧
    (∀ (it : FindValueIter) c rest answer (doVerify : IdType → NodeContactInfo → Bytes → Option α),
      FindValueReach node id narrowDown useRelays α visitLimit it → it.candidates = c :: rest →
        it.visited.length < visitLimit →
      ((c.contact.nodeId = node.nodeId ∨ c.strategy.contact ∈ it.visited.map (·.2)) ∧
          (findValueIteration node id narrowDown useRelays answer doVerify it c rest).state.visited = it.visited ∨
        c.contact.nodeId ≠ node.nodeId ∧ c.strategy.contact ∉ it.visited.map (·.2) ∧
          (findValueIteration node id narrowDown useRelays answer doVerify it c rest).state.visited =
            it.visited ++ [(c.contact.nodeId, c.strategy.contact)] ∧
          ∀ d ∈ rest, distance id c.contact.nodeId ≤ distance id d.contact.nodeId) ∧
      (narrowDown = true → ∀ d ∈ (findValueIteration node id narrowDown useRelays answer doVerify it c rest).state.candidates,
        d ∈ rest ∨ distance id d.contact.nodeId < distance id c.contact.nodeId)) ∧
    ∀ fuel it answer (doVerify : IdType → NodeContactInfo → Bytes → Option α) result it',
      FindValueReach node id narrowDown useRelays α visitLimit it →
      FindValueIter.next node id narrowDown useRelays answer doVerify visitLimit fuel it = some (result, it') →
      FindValueReach node id narrowDown useRelays α visitLimit it' := by
  refine ⟨fun it reach => ?_, fun it c rest answer doVerify reach queued below => ?_,
    fun fuel it answer doVerify result it' reach ended => next_reach reach ended⟩
  · have inv := reach.inv
    exact ⟨inv.within, inv.options, inv.notOwn, sorted_distance_of_ascending inv.ascending inv.dist⟩
  · have inv := reach.inv
    have head : ∀ d ∈ rest, c.dist ≤ d.dist := (List.pairwise_cons.mp (queued ▸ inv.ascending : Ascending (c :: rest))).1
    have atDist : ∀ d ∈ c :: rest, d.dist = distance id d.contact.nodeId := queued ▸ inv.dist
    rcases findValueIteration_cases node id narrowDown useRelays answer doVerify it c rest with
      ⟨skipped, same⟩ | ⟨own, seen, visited, contacts, queue⟩
    · rw [same]
      exact ⟨.inl ⟨skipped, rfl⟩, fun _ d mem => .inl mem⟩
    · refine ⟨.inr ⟨own, seen, visited, fun d mem => ?_⟩, fun narrowed d mem => ?_⟩
      · rw [← atDist c (List.mem_cons_self c rest),← atDist d (List.mem_cons_of_mem c mem)]
        exact head d mem
      · rcases mem_mergeResponse (queue ▸ mem) with old | ⟨dist, closer⟩
        · exact .inl old
        · rw [← dist,← atDist c (List.mem_cons_self c rest)]
          exact .inr (closer narrowed)

end Lifetime

/-- Both lookups end, whatever the peers answer and however many fingers a response carries.
The loop of `find_node_from_fingers` ends within `(visit_limit + 1) * (bound + 1)` passes, after
at most `visit_limit` dials, none of them to a node id dialed before. Every call of
`FindValueIter::next`, from any iterator, returns. -/
theorem lookups_terminate :
    (∀ {Bucket : Type} (node : Node Bucket) (answer : Nat → FindNodeAnswer) (id : IdType) (resultLimit visitLimit : Nat)
        (ownOpenness : ContactOption → Option Openness) (fingers : List NodeContactInfo),
      ∃ s, (∀ fuel, (visitLimit + 1) *
          (max (findNodeCandidates node.nodeId node.sockets ownOpenness id fingers).length node.bucketSize + 1) ≤ fuel →
          findNodeLoop node answer id resultLimit visitLimit fuel (findNodeStart node id resultLimit ownOpenness fingers) =
            some s) ∧
        s.visited.length ≤ visitLimit ∧ (s.visited.map (·.1)).Nodup) ∧
    ∀ {Bucket : Type} (node : Node Bucket) (id : IdType) (narrowDown useRelays : Bool) {α : Type}
      (answer : Nat → FindValueAnswer) (doVerify : IdType → NodeContactInfo → Bytes → Option α) (visitLimit : Nat)
      (it : FindValueIter),
      ∃ r fuel, ∀ more, FindValueIter.next node id narrowDown useRelays answer doVerify visitLimit (fuel + more) it = some r := by
  refine ⟨fun node answer id resultLimit visitLimit ownOpenness fingers => ?_, fun node id narrowDown useRelays α answer
    doVerify visitLimit it => ?_⟩
  · obtain ⟨s, ended, result⟩ := findNodeLoop_terminates node answer id resultLimit visitLimit ownOpenness fingers
    exact ⟨s, ended, result.dials, result.distinct⟩
  · obtain ⟨fuel, r, ended⟩ : ∃ fuel r, FindValueIter.next node id narrowDown useRelays answer doVerify visitLimit fuel it =
      some r := next_ends it
    exact ⟨r, fuel, next_add_fuel ended⟩

end StoneNet
