import StoneNet.Node.Buckets

/-! The candidate queues of the lookups: `insert_candidate`, `append_candidates`,
`sort_fingers` and the loops that seed a lookup's queue. A queue is kept in ascending order of
distance, and a new entry goes after every entry as close as it, so the queue a run of
insertions builds is the stable sort of the old queue followed by the new entries. -/
namespace StoneNet

/-- An entry `(BigUint, NodeContactInfo, ContactStrategy)` of a candidate queue: the contact's
distance from the id looked up, the contact and how to reach it. -/
structure Candidate where
  dist : Nat
  contact : NodeContactInfo
  strategy : ContactStrategy
  deriving DecidableEq

/-- The entry `insert_candidate` builds for a finger. -/
def Candidate.ofFinger (id : IdType) (finger : NodeContactInfo × ContactStrategy) : Candidate :=
  ⟨distance id finger.1.nodeId, finger.1, finger.2⟩

/-- The loop of `Node::insert_candidate`: the entry goes in front of the first candidate
strictly farther away, or at the back. -/
def insertBefore (entry : Candidate) : List Candidate → List Candidate
  | [] => [entry]
  | c :: rest => if entry.dist < c.dist then entry :: c :: rest else c :: insertBefore entry rest

/-- `Node::insert_candidate`. -/
def insertCandidate (id : IdType) (candidates : List Candidate) (finger : NodeContactInfo × ContactStrategy) :
    List Candidate :=
  insertBefore (Candidate.ofFinger id finger) candidates

/-- `Node::append_candidates`. -/
def appendCandidates (id : IdType) (candidates : List Candidate) (fingers : List (NodeContactInfo × ContactStrategy)) :
    List Candidate :=
  fingers.foldl (insertCandidate id) candidates

/-- `Node::sort_fingers`; `sort_by` is a stable sort. -/
def sortFingers (id : IdType) (fingers : List NodeContactInfo) : List (Nat × NodeContactInfo) :=
  (fingers.map fun f => (distance id f.nodeId, f)).mergeSort fun a b => a.1 ≤ b.1

/-- The first loop of `find_node_from_fingers`: the sorted fingers, but the node itself, that it
has a way to reach. -/
def findNodeCandidates (nodeId : IdType) (sockets : SocketCollection) (ownOpenness : ContactOption → Option Openness)
    (id : IdType) (fingers : List NodeContactInfo) : List Candidate :=
  (sortFingers id fingers).filterMap fun (d, n) =>
    if n.nodeId ≠ nodeId then (pickContactStrategy sockets ownOpenness n.contactInfo).map (⟨d, n, ·⟩) else none

/-- The first loop of `find_value_from_fingers_iter`: the sorted fingers it has a way to reach. -/
def findValueCandidates (sockets : SocketCollection) (ownOpenness : ContactOption → Option Openness)
    (id : IdType) (fingers : List NodeContactInfo) : List Candidate :=
  (sortFingers id fingers).filterMap fun (d, n) => (pickContactStrategy sockets ownOpenness n.contactInfo).map (⟨d, n, ·⟩)

theorem dist_of_mem_sortFingers {id : IdType} {fingers : List NodeContactInfo} {p : Nat × NodeContactInfo}
    (mem : p ∈ sortFingers id fingers) : p.1 = distance id p.2.nodeId := by
  obtain ⟨f, -, rfl⟩ := List.mem_map.mp (List.mem_mergeSort.mp mem)
  rfl

theorem sortFingers_singleton (id : IdType) (f : NodeContactInfo) : sortFingers id [f] = [(distance id f.nodeId, f)] := by
  simp [sortFingers]

/-- The seeds of `find_node_from_fingers` are at their distance from `id`, and none is the node
itself. -/
theorem mem_findNodeCandidates {nodeId : IdType} {sockets : SocketCollection}
    {ownOpenness : ContactOption → Option Openness} {id : IdType} {fingers : List NodeContactInfo} {c : Candidate}
    (mem : c ∈ findNodeCandidates nodeId sockets ownOpenness id fingers) :
    c.dist = distance id c.contact.nodeId ∧ c.contact.nodeId ≠ nodeId := by
  obtain ⟨⟨d, n⟩, sorted, picked⟩ := List.mem_filterMap.mp mem
  dsimp only at picked
  split at picked
  · next other =>
    obtain ⟨_, -, rfl⟩ := Option.map_eq_some'.mp picked
    exact ⟨dist_of_mem_sortFingers sorted, other⟩
  · cases picked

theorem mem_findValueCandidates {sockets : SocketCollection} {ownOpenness : ContactOption → Option Openness}
    {id : IdType} {fingers : List NodeContactInfo} {c : Candidate}
    (mem : c ∈ findValueCandidates sockets ownOpenness id fingers) : c.dist = distance id c.contact.nodeId := by
  obtain ⟨⟨d, n⟩, sorted, picked⟩ := List.mem_filterMap.mp mem
  obtain ⟨_, -, rfl⟩ := Option.map_eq_some'.mp picked
  exact dist_of_mem_sortFingers sorted

/-- A queue in ascending order of distance. -/
def Ascending (candidates : List Candidate) : Prop := candidates.Pairwise fun a b => a.dist ≤ b.dist

/-- The comparison the stable sort of a queue uses. -/
def byDist (a b : Candidate) : Bool := a.dist ≤ b.dist

theorem ascending_iff_byDist {candidates : List Candidate} :
    Ascending candidates ↔ candidates.Pairwise fun a b => byDist a b = true := by
  simp [Ascending,byDist]

@[simp] theorem mem_insertBefore {entry c : Candidate} {candidates : List Candidate} :
    c ∈ insertBefore entry candidates ↔ c = entry ∨ c ∈ candidates := by
  induction candidates with
  | nil => simp [insertBefore]
  | cons d rest ih =>
    unfold insertBefore
    split
    · simp
    · simp only [List.mem_cons,ih]; tauto

/-- `append_candidates` keeps the queue and adds the entries of the fingers. -/
theorem mem_appendCandidates {id : IdType} {c : Candidate} {candidates : List Candidate}
    {fingers : List (NodeContactInfo × ContactStrategy)} :
    c ∈ appendCandidates id candidates fingers ↔ c ∈ candidates ∨ c ∈ fingers.map (Candidate.ofFinger id) := by
  induction fingers generalizing candidates with
  | nil => simp [appendCandidates]
  | cons finger fingers ih =>
    simp only [appendCandidates,List.foldl_cons] at ih ⊢
    rw [ih,insertCandidate,mem_insertBefore,List.map_cons,List.mem_cons]
    tauto

section Insert

variable (entry : Candidate) {candidates : List Candidate}

/-- On an ascending queue, the entry goes right after the entries as close as it and right
before those farther away. -/
theorem insertBefore_split (sorted : Ascending candidates) : ∃ pre post, candidates = pre ++ post ∧
    insertBefore entry candidates = pre ++ entry :: post ∧ (∀ c ∈ pre, c.dist ≤ entry.dist) ∧
      ∀ c ∈ post, entry.dist < c.dist := by
  induction candidates with
  | nil => exact ⟨[], [], rfl, rfl, by simp, by simp⟩
  | cons c rest ih =>
    obtain ⟨atLeast, sorted⟩ := List.pairwise_cons.mp sorted
    by_cases before : entry.dist < c.dist
    · refine ⟨[], c :: rest, rfl, if_pos before, by simp, fun d mem => ?_⟩
      rcases List.mem_cons.mp mem with rfl | later
      · exact before
      · exact Nat.lt_of_lt_of_le before (atLeast d later)
    · obtain ⟨pre, post, split, inserted, closer, farther⟩ := ih sorted
      refine ⟨c :: pre, post, by rw [split]; rfl, by rw [insertBefore,if_neg before,inserted]; rfl, ?_, farther⟩
      intro d mem
      rcases List.mem_cons.mp mem with rfl | earlier
      · exact Nat.not_lt.mp before
      · exact closer d earlier

theorem insertBefore_ascending (sorted : Ascending candidates) : Ascending (insertBefore entry candidates) := by
  obtain ⟨pre, post, split, inserted, closer, farther⟩ := insertBefore_split entry sorted
  rw [split] at sorted
  obtain ⟨sortedPre, sortedPost, across⟩ := List.pairwise_append.mp sorted
  rw [inserted]
  refine List.pairwise_append.mpr ⟨sortedPre, List.pairwise_cons.mpr ⟨fun c mem => Nat.le_of_lt (farther c mem), sortedPost⟩, ?_⟩
  intro a inPre b mem
  rcases List.mem_cons.mp mem with rfl | inPost
  · exact closer a inPre
  · exact across a inPre b inPost

/-- Inserting adds the entry at the end of its tie class and leaves the other classes. -/
theorem filter_insertBefore (sorted : Ascending candidates) (k : Nat) :
    (insertBefore entry candidates).filter (·.dist == k) =
      candidates.filter (·.dist == k) ++ if entry.dist = k then [entry] else [] := by
  obtain ⟨pre, post, split, inserted, -, farther⟩ := insertBefore_split entry sorted
  rw [inserted,split,List.filter_append,List.filter_append,List.filter_cons]
  by_cases same : entry.dist = k
  · have none : post.filter (·.dist == k) = [] :=
      List.filter_eq_nil_iff.mpr fun c mem => by simpa [← same] using Nat.ne_of_gt (farther c mem)
    simp [same,none]
  · simp [same]

theorem appendCandidates_ascending (id : IdType) {candidates : List Candidate} (sorted : Ascending candidates)
    (fingers : List (NodeContactInfo × ContactStrategy)) : Ascending (appendCandidates id candidates fingers) := by
  induction fingers generalizing candidates with
  | nil => exact sorted
  | cons finger fingers ih => exact ih (insertBefore_ascending _ sorted)

end Insert

section Stable

theorem byDist_trans (a b c : Candidate) : byDist a b → byDist b c → byDist a c := by
  simp only [byDist,decide_eq_true_eq]; omega

theorem byDist_total (a b : Candidate) : (byDist a b || byDist b a) = true := by
  simp only [byDist,Bool.or_eq_true,decide_eq_true_eq]; omega

theorem ascending_mergeSort (l : List Candidate) : Ascending (l.mergeSort byDist) :=
  ascending_iff_byDist.mpr (List.sorted_mergeSort byDist_trans byDist_total l)

/-- The stable sort keeps each tie class in its order. -/
theorem filter_mergeSort (l : List Candidate) (k : Nat) :
    (l.mergeSort byDist).filter (·.dist == k) = l.filter (·.dist == k) := by
  have tied : (l.filter (·.dist == k)).Pairwise fun a b => byDist a b = true :=
    List.pairwise_of_forall_mem_list fun a inA b inB => by
      simp only [List.mem_filter,beq_iff_eq] at inA inB
      simp [byDist,inA.2,inB.2]
  have kept := (List.sublist_mergeSort byDist_trans byDist_total tied (List.filter_sublist l)).filter (·.dist == k)
  rw [List.filter_eq_self.mpr fun a mem => (List.mem_filter.mp mem).2] at kept
  exact (kept.eq_of_length ((List.mergeSort_perm l byDist).filter _).length_eq.symm).symm

/-- Two ascending queues with the same tie classes are equal. -/
theorem eq_of_ascending_of_filter_eq {l₁ l₂ : List Candidate} (sorted₁ : Ascending l₁) (sorted₂ : Ascending l₂)
    (same : ∀ k, l₁.filter (·.dist == k) = l₂.filter (·.dist == k)) : l₁ = l₂ := by
  induction l₁ generalizing l₂ with
  | nil =>
    cases l₂ with
    | nil => rfl
    | cons b l₂ => simpa using same b.dist
  | cons a l₁ ih =>
    cases l₂ with
    | nil => simpa using same a.dist
    | cons b l₂ =>
      obtain ⟨aFirst, rest₁⟩ := List.pairwise_cons.mp sorted₁
      obtain ⟨bFirst, rest₂⟩ := List.pairwise_cons.mp sorted₂
      -- the head of each queue is in the other one, so the heads are equally far
      have headIn {x y : Candidate} {l l' : List Candidate}
          (eq : (x :: l).filter (·.dist == x.dist) = (y :: l').filter (·.dist == x.dist)) : x ∈ y :: l' := by
        have own : x ∈ (x :: l).filter (·.dist == x.dist) :=
          List.mem_filter.mpr ⟨List.mem_cons_self _ _, beq_self_eq_true _⟩
        rw [eq] at own
        exact List.mem_of_mem_filter own
      have least {x y : Candidate} {l : List Candidate} (first : ∀ c ∈ l, y.dist ≤ c.dist) (mem : x ∈ y :: l) :
          y.dist ≤ x.dist := by
        rcases List.mem_cons.mp mem with rfl | later
        · exact Nat.le_refl _
        · exact first x later
      have tie : a.dist = b.dist :=
        Nat.le_antisymm (least aFirst (headIn (same b.dist).symm)) (least bFirst (headIn (same a.dist)))
      have heads := same a.dist
      simp only [List.filter_cons,beq_self_eq_true,if_true,tie] at heads
      obtain ⟨rfl, -⟩ := List.cons.inj heads
      have tails (k : Nat) : l₁.filter (·.dist == k) = l₂.filter (·.dist == k) := by
        have classes := same k
        by_cases here : a.dist = k
        · subst here; simpa [List.filter_cons] using classes
        · simpa [List.filter_cons,here] using classes
      rw [ih rest₁ rest₂ tails]

/-- `append_candidates` on an ascending queue is the stable sort of the queue followed by the
new entries. -/
theorem appendCandidates_eq_mergeSort (id : IdType) {candidates : List Candidate} (sorted : Ascending candidates)
    (fingers : List (NodeContactInfo × ContactStrategy)) :
    appendCandidates id candidates fingers = (candidates ++ fingers.map (Candidate.ofFinger id)).mergeSort byDist := by
  induction fingers generalizing candidates with
  | nil =>
    rw [appendCandidates,List.foldl_nil,List.map_nil,List.append_nil,
      List.mergeSort_of_sorted (ascending_iff_byDist.mp sorted)]
  | cons finger fingers ih =>
    rw [appendCandidates,List.foldl_cons,← appendCandidates,
      ih (show Ascending (insertCandidate id candidates finger) from insertBefore_ascending _ sorted)]
    refine eq_of_ascending_of_filter_eq (ascending_mergeSort _) (ascending_mergeSort _) fun k => ?_
    rw [filter_mergeSort,filter_mergeSort,List.filter_append,insertCandidate,filter_insertBefore _ sorted,
      List.map_cons,List.filter_append,List.filter_cons,List.append_assoc]
    by_cases same : (Candidate.ofFinger id finger).dist = k <;> simp [same]

end Stable

/-- An ascending queue whose entries are at their distance from `id` is sorted by that
distance. -/
theorem sorted_distance_of_ascending {id : IdType} {candidates : List Candidate} (sorted : Ascending candidates)
    (dist : ∀ c ∈ candidates, c.dist = distance id c.contact.nodeId) :
    (candidates.map fun c => distance id c.contact.nodeId).Sorted (· ≤ ·) :=
  List.pairwise_map.mpr (sorted.imp_of_mem fun inA inB closer => by rwa [← dist _ inA,← dist _ inB])

/-- Any filtering of the sorted fingers that keeps their distances gives an ascending queue. -/
theorem ascending_filterMap_sortFingers {f : Nat × NodeContactInfo → Option Candidate}
    (keeps : ∀ a b, b ∈ f a → b.dist = a.1) (id : IdType) (fingers : List NodeContactInfo) :
    Ascending ((sortFingers id fingers).filterMap f) := by
  have sorted := @List.sorted_mergeSort _ (fun a b : Nat × NodeContactInfo => decide (a.1 ≤ b.1))
    (fun a b c => by simp only [decide_eq_true_eq]; omega) (fun a b => by simp only [Bool.or_eq_true,decide_eq_true_eq]; omega)
    (fingers.map fun f => (distance id f.nodeId, f))
  exact sorted.filterMap f fun a a' closer b inA b' inA' => by
    rw [keeps a b inA,keeps a' b' inA']
    exact of_decide_eq_true closer

theorem findNodeCandidates_ascending (nodeId : IdType) (sockets : SocketCollection)
    (ownOpenness : ContactOption → Option Openness) (id : IdType) (fingers : List NodeContactInfo) :
    Ascending (findNodeCandidates nodeId sockets ownOpenness id fingers) := by
  refine ascending_filterMap_sortFingers (fun ⟨d, n⟩ b mem => ?_) id fingers
  dsimp only at mem
  split at mem
  · obtain ⟨_, -, rfl⟩ := Option.map_eq_some'.mp mem; rfl
  · cases mem

theorem findValueCandidates_ascending (sockets : SocketCollection) (ownOpenness : ContactOption → Option Openness)
    (id : IdType) (fingers : List NodeContactInfo) : Ascending (findValueCandidates sockets ownOpenness id fingers) := by
  refine ascending_filterMap_sortFingers (fun ⟨d, n⟩ b mem => ?_) id fingers
  obtain ⟨_, -, rfl⟩ := Option.map_eq_some'.mp mem; rfl

/-- The candidate queues: `insert_candidate` puts the new entry right after the entries of an
ascending queue as close as it and before those farther away, so the queue stays ascending;
`append_candidates` is the stable sort of the queue followed by the new entries; and the
queues `find_node_from_fingers` and `find_value_from_fingers_iter` start with are ascending. -/
theorem candidate_queue_ascending (id : IdType) :
    (∀ (candidates : List Candidate) (finger : NodeContactInfo × ContactStrategy), Ascending candidates →
      Ascending (insertCandidate id candidates finger) ∧
      ∃ pre post, candidates = pre ++ post ∧
        insertCandidate id candidates finger = pre ++ Candidate.ofFinger id finger :: post ∧
        (∀ c ∈ pre, c.dist ≤ distance id finger.1.nodeId) ∧ ∀ c ∈ post, distance id finger.1.nodeId < c.dist) ∧
    (∀ (candidates : List Candidate) (fingers : List (NodeContactInfo × ContactStrategy)), Ascending candidates →
      appendCandidates id candidates fingers = (candidates ++ fingers.map (Candidate.ofFinger id)).mergeSort byDist) ∧
    (∀ nodeId sockets ownOpenness fingers, Ascending (findNodeCandidates nodeId sockets ownOpenness id fingers)) ∧
    ∀ sockets ownOpenness fingers, Ascending (findValueCandidates sockets ownOpenness id fingers) :=
  ⟨fun _ finger sorted => ⟨insertBefore_ascending _ sorted, insertBefore_split (Candidate.ofFinger id finger) sorted⟩,
    fun _ fingers sorted => appendCandidates_eq_mergeSort id sorted fingers,
    fun nodeId sockets ownOpenness fingers => findNodeCandidates_ascending nodeId sockets ownOpenness id fingers,
    fun sockets ownOpenness fingers => findValueCandidates_ascending sockets ownOpenness id fingers⟩

end StoneNet
