import Osrm.Engine.RoutingAlgorithms.ManyToMany

/-!
# Sweeps of the matrix search

Two facts about every sweep of `many_to_many.hpp`, proved once for `settleRun` and so for both
directions.

* The loop `while (!query_heap.Empty())` ends within `GetNumberOfNodes() + 2` iterations. The
  potential is the number of log entries still in the ordering heap plus the number of graph
  nodes never inserted: `DeleteMin` lowers the first, an `Insert` by `RelaxOutgoingEdges` moves
  one node from the second to the first, and `DecreaseKey` changes neither. The two seeds are the
  only nodes that may lie outside the graph. Every sweep from a phantom's seeds so ends with the
  heap empty (`settleRun_sweepFuel`), and the fuelled model is the loop of the code.
* Every key the heap holds, and so every key a sweep settles, is a seed key plus the weight of a
  search walk from that seed (`settleRun_reached`).
-/

namespace Osrm.Engine.RoutingAlgorithms

variable (g : QueryGraph)

/-! ### Termination -/

/-- The nodes of the graph the heap has not seen since its last `Clear`. -/
def uninsertedCount (heap : QueryHeap) : Nat :=
  (List.range g.getNumberOfNodes).countP fun node => !heap.wasInserted node

/-- Entries still in the ordering heap plus nodes still to be inserted. -/
def potential (heap : QueryHeap) : Nat :=
  heap.liveCount + uninsertedCount g heap

theorem uninsertedCount_insert {heap : QueryHeap} {node : Nat} (key : Int)
    (inside : node < g.getNumberOfNodes) (fresh : heap.wasInserted node = false) :
    uninsertedCount g (heap.insert node key) + 1 = uninsertedCount g heap := by
  have nodup : ((List.range g.getNumberOfNodes).filter fun m => !heap.wasInserted m).Nodup :=
    (List.nodup_range _).filter _
  have member : node ∈ (List.range g.getNumberOfNodes).filter fun m => !heap.wasInserted m := by
    simp [inside, fresh]
  have erased : (List.range g.getNumberOfNodes).filter
      (fun m => !(heap.insert node key).wasInserted m) =
      ((List.range g.getNumberOfNodes).filter fun m => !heap.wasInserted m).erase node := by
    rw [nodup.erase_eq_filter, List.filter_filter]
    congr 1
    funext m
    by_cases same : node = m
    · subst same; simp
    · simp [same, Ne.symm same]
  rw [uninsertedCount, uninsertedCount, List.countP_eq_length_filter,
    List.countP_eq_length_filter, erased, List.length_erase_of_mem member]
  have := List.length_pos_of_mem member
  omega

@[simp] theorem uninsertedCount_decreaseKey (heap : QueryHeap) (node : Nat) (key : Int) :
    uninsertedCount g (heap.decreaseKey node key) = uninsertedCount g heap := by
  simp [uninsertedCount]

@[simp] theorem uninsertedCount_removeNode (heap : QueryHeap) (node : Nat) :
    uninsertedCount g (heap.removeNode node) = uninsertedCount g heap := by
  simp [uninsertedCount]

/-- Relaxing an edge of the graph never raises the potential. -/
theorem potential_relaxEdge (forwardDirection : Bool) (distance : Int) (heap : QueryHeap)
    {edge : QueryEdge} (target_lt : edge.target < g.getNumberOfNodes) :
    potential g (relaxEdge forwardDirection distance heap edge) ≤ potential g heap := by
  unfold relaxEdge
  dsimp only
  split_ifs with flagged fresh
  · have moved := uninsertedCount_insert g (distance + edge.distance) target_lt
      (by simpa using fresh)
    simp only [potential, QueryHeap.liveCount_insert]
    omega
  · simp [potential]
  · exact le_refl _
  · exact le_refl _

theorem potential_foldl_relaxEdge (forwardDirection : Bool) (distance : Int)
    (edges : List QueryEdge) (targets : ∀ edge ∈ edges, edge.target < g.getNumberOfNodes)
    (heap : QueryHeap) :
    potential g (edges.foldl (relaxEdge forwardDirection distance) heap) ≤ potential g heap := by
  induction edges generalizing heap with
  | nil => exact le_refl _
  | cons edge rest ih =>
    rw [List.foldl_cons]
    exact le_trans (ih (fun other member => targets other (List.mem_cons_of_mem _ member)) _)
      (potential_relaxEdge g _ _ _ (targets edge (List.mem_cons_self _ _)))

theorem potential_relaxOutgoingEdges (forwardDirection : Bool) (node : Nat) (distance : Int)
    (heap : QueryHeap) :
    potential g (relaxOutgoingEdges g forwardDirection node distance heap) ≤ potential g heap :=
  potential_foldl_relaxEdge g _ _ _ (fun _ => g.target_lt_of_mem) heap

/-- Each iteration of a sweep lowers the potential. -/
theorem potential_settleNext (forwardDirection : Bool) {heap : QueryHeap}
    (busy : heap.empty = false) :
    potential g (settleNext g forwardDirection heap).2.2 < potential g heap := by
  obtain ⟨best, member, live, deleted⟩ := QueryHeap.deleteMin_of_busy busy
  have removed : potential g (heap.removeNode best.node) < potential g heap := by
    have := QueryHeap.liveCount_removeNode_lt heap best.node ⟨best, member, rfl, live⟩
    simp only [potential, uninsertedCount_removeNode]
    omega
  unfold settleNext
  simp only [deleted]
  split
  · exact removed
  · exact lt_of_le_of_lt (potential_relaxOutgoingEdges g ..) removed

/-- A settle run with fuel at least the potential ends with an empty heap. -/
theorem settleRun_empty (forwardDirection : Bool) (fuel : Nat) (heap : QueryHeap)
    (enough : potential g heap ≤ fuel) :
    (settleRun g forwardDirection fuel heap).2.empty = true := by
  induction fuel generalizing heap with
  | zero =>
    show heap.empty = true
    exact QueryHeap.empty_of_liveCount (by unfold potential at enough; omega)
  | succ fuel ih =>
    unfold settleRun
    split
    next done => exact done
    next busy =>
      have lower := potential_settleNext g forwardDirection (show heap.empty = false by
        simpa using busy)
      exact ih _ (by omega)

theorem potential_phantomSeeds (phantom : PhantomNode) (forwardKey reverseKey : Int) :
    potential g (phantomSeeds phantom forwardKey reverseKey) ≤ g.getNumberOfNodes + 2 := by
  have entries : (phantomSeeds phantom forwardKey reverseKey).insertedNodes.length ≤ 2 := by
    unfold phantomSeeds
    split_ifs <;> simp [QueryHeap.insert, QueryHeap.clear]
  have live := (phantomSeeds phantom forwardKey reverseKey).liveCount_le_length
  have unseen : uninsertedCount g (phantomSeeds phantom forwardKey reverseKey) ≤
      g.getNumberOfNodes := by
    simpa using List.countP_le_length (l := List.range g.getNumberOfNodes) _
  unfold potential
  omega

/-- Every sweep of the matrix search runs until its heap is empty. -/
theorem settleRun_sweepFuel (forwardDirection : Bool) (phantom : PhantomNode)
    (forwardKey reverseKey : Int) :
    (settleRun g forwardDirection (sweepFuel g)
      (phantomSeeds phantom forwardKey reverseKey)).2.empty = true :=
  settleRun_empty g _ _ _ (potential_phantomSeeds g phantom forwardKey reverseKey)

/-! ### Keys are weights of search walks -/

/-- `node` is reached with `key`: a seed `(x, k)` and a search walk from `x` to `node` of weight
`w` with `key = k + w`. -/
def Reached (forwardDirection : Bool) (seed : Nat → Int → Prop) (node : Nat) (key : Int) : Prop :=
  ∃ x k w, seed x k ∧ g.SearchWalk forwardDirection x node w ∧ key = k + w

/-- Every entry of the heap log is reached with its key. -/
def Attained (forwardDirection : Bool) (seed : Nat → Int → Prop) (heap : QueryHeap) : Prop :=
  ∀ entry ∈ heap.insertedNodes, Reached g forwardDirection seed entry.node entry.key

section Attained

variable {g} {forwardDirection : Bool} {seed : Nat → Int → Prop}

theorem Reached.arc {u v : Nat} {key step : Int} (reached : Reached g forwardDirection seed u key)
    (arc : g.SearchArc forwardDirection u v step) :
    Reached g forwardDirection seed v (key + step) := by
  obtain ⟨x, k, w, seeded, walk, rfl⟩ := reached
  exact ⟨x, k, w + step, seeded, walk.snoc arc, Int.add_assoc _ _ _⟩

theorem Reached.mono {seed' : Nat → Int → Prop} (weaker : ∀ x k, seed x k → seed' x k)
    {node : Nat} {key : Int} (reached : Reached g forwardDirection seed node key) :
    Reached g forwardDirection seed' node key := by
  obtain ⟨x, k, w, seeded, walk, rfl⟩ := reached
  exact ⟨x, k, w, weaker x k seeded, walk, rfl⟩

theorem attained_relaxEdge {heap : QueryHeap} {node : Nat} {distance : Int} {edge : QueryEdge}
    (attained : Attained g forwardDirection seed heap)
    (reached : Reached g forwardDirection seed node distance)
    (member : edge ∈ g.adjacentEdges node) :
    Attained g forwardDirection seed (relaxEdge forwardDirection distance heap edge) := by
  unfold relaxEdge
  dsimp only
  split_ifs with flagged
  · intro entry added
    rcases List.mem_append.mp added with old | fresh
    · exact attained entry old
    · rw [List.mem_singleton.mp fresh]
      exact reached.arc ⟨edge, member, rfl, flagged, rfl⟩
  · intro entry changed
    obtain ⟨old, member_old, rfl⟩ := List.mem_map.mp changed
    split_ifs with same
    · exact same ▸ reached.arc ⟨edge, member, rfl, flagged, rfl⟩
    · exact attained old member_old
  · exact attained
  · exact attained

theorem attained_foldl_relaxEdge {node : Nat} {distance : Int} (edges : List QueryEdge)
    (members : ∀ edge ∈ edges, edge ∈ g.adjacentEdges node) {heap : QueryHeap}
    (attained : Attained g forwardDirection seed heap)
    (reached : Reached g forwardDirection seed node distance) :
    Attained g forwardDirection seed (edges.foldl (relaxEdge forwardDirection distance) heap) := by
  induction edges generalizing heap with
  | nil => exact attained
  | cons edge rest ih =>
    rw [List.foldl_cons]
    exact ih (fun other member => members other (List.mem_cons_of_mem _ member))
      (attained_relaxEdge attained reached (members edge (List.mem_cons_self _ _)))

theorem attained_relaxOutgoingEdges {heap : QueryHeap} {node : Nat} {distance : Int}
    (attained : Attained g forwardDirection seed heap)
    (reached : Reached g forwardDirection seed node distance) :
    Attained g forwardDirection seed (relaxOutgoingEdges g forwardDirection node distance heap) :=
  attained_foldl_relaxEdge _ (fun _ => id) attained reached

theorem attained_removeNode {heap : QueryHeap} (node : Nat)
    (attained : Attained g forwardDirection seed heap) :
    Attained g forwardDirection seed (heap.removeNode node) := by
  intro entry member
  obtain ⟨old, member_old, rfl⟩ := List.mem_map.mp member
  simpa using attained old member_old

/-- An iteration settles a reached node with its key and keeps every heap key reached. -/
theorem settleNext_spec {heap : QueryHeap} (attained : Attained g forwardDirection seed heap)
    (busy : heap.empty = false) :
    Reached g forwardDirection seed (settleNext g forwardDirection heap).1
        (settleNext g forwardDirection heap).2.1 ∧
      Attained g forwardDirection seed (settleNext g forwardDirection heap).2.2 := by
  obtain ⟨best, member, -, deleted⟩ := QueryHeap.deleteMin_of_busy busy
  have removed := attained_removeNode best.node attained
  have settled : Reached g forwardDirection seed best.node
      ((heap.removeNode best.node).getKey best.node) := by
    have inserted : (heap.removeNode best.node).wasInserted best.node = true := by
      simpa using QueryHeap.wasInserted_of_mem member
    obtain ⟨entry, logged, same, key⟩ := QueryHeap.getKey_mem inserted
    have reached := removed entry logged
    rw [same, key] at reached
    exact reached
  unfold settleNext
  simp only [deleted]
  refine ⟨settled, ?_⟩
  split
  · exact removed
  · exact attained_relaxOutgoingEdges removed settled

/-- Every node a sweep settles is reached with the key it is settled at. -/
theorem settleRun_reached (fuel : Nat) {heap : QueryHeap}
    (attained : Attained g forwardDirection seed heap) :
    ∀ settled ∈ (settleRun g forwardDirection fuel heap).1,
      Reached g forwardDirection seed settled.1 settled.2 := by
  induction fuel generalizing heap with
  | zero => intro settled member; cases member
  | succ fuel ih =>
    unfold settleRun
    split
    next => intro settled member; cases member
    next busy =>
      have step := settleNext_spec attained (by simpa using busy)
      intro settled member
      rcases List.mem_cons.mp member with rfl | later
      · exact step.1
      · exact ih step.2 settled later

end Attained

/-- The seeds of `phantomSeeds` with the keys they are inserted with. -/
theorem attained_phantomSeeds (forwardDirection : Bool) (phantom : PhantomNode)
    (forwardKey reverseKey : Int) :
    Attained g forwardDirection
      (fun x k => (phantom.forwardSegmentId.enabled = true ∧ phantom.forwardSegmentId.id = x ∧
          forwardKey = k) ∨
        (phantom.reverseSegmentId.enabled = true ∧ phantom.reverseSegmentId.id = x ∧
          reverseKey = k))
      (phantomSeeds phantom forwardKey reverseKey) := by
  intro entry member
  have shape : (entry = ⟨phantom.forwardSegmentId.id, forwardKey, false⟩ ∧
        phantom.forwardSegmentId.enabled = true) ∨
      (entry = ⟨phantom.reverseSegmentId.id, reverseKey, false⟩ ∧
        phantom.reverseSegmentId.enabled = true) := by
    unfold phantomSeeds at member
    split_ifs at member <;> simp_all [QueryHeap.insert, QueryHeap.clear]
  rcases shape with ⟨rfl, forward⟩ | ⟨rfl, reverse⟩
  · exact ⟨_, _, 0, Or.inl ⟨forward, rfl, rfl⟩, .nil _, by simp⟩
  · exact ⟨_, _, 0, Or.inr ⟨reverse, rfl, rfl⟩, .nil _, by simp⟩

end Osrm.Engine.RoutingAlgorithms
