import Osrm.Engine.RoutingAlgorithms.SettleOrder

/-!
# The keys a sweep settles at

A sweep settles a node at the weight of a search walk from a seed (`settleRun_reached`). When that
weight is also at most the weight of every road walk from a seed, the sweep settles the node at
exactly that key, stalling on demand included (`settleRun_exact`). This is Dijkstra's argument
over the search the code runs:

* the walk's last arc leaves a node that an earlier iteration settled at its own exact key;
* `StallAtNode` does not skip that node, for a neighbour that stalls it would end a shorter road
  walk (`stallAtNode_of_below`);
* relaxing the arc leaves its head in the heap at most at the key, since every key settled before
  is lower (`Sweeping.settleRun`);
* a node in the heap is settled at most at its key (`settleRun_inHeap`).

The backward search walks the road network the other way, so its road walks run from the node
to the seed (`RoadWalk`).
-/

namespace Osrm.Engine

namespace QueryHeap

theorem getKey_insert_of_inserted {heap : QueryHeap} {m : Nat} (inserted : heap.wasInserted m = true)
    (node : Nat) (key : Int) : (heap.insert node key).getKey m = heap.getKey m := by
  cases found : heap.lookup m with
  | none => simp [wasInserted, found] at inserted
  | some entry => simp [getKey, lookup_insert, found]

theorem getKey_insert_self {heap : QueryHeap} {node : Nat} (fresh : heap.wasInserted node = false)
    (key : Int) : (heap.insert node key).getKey node = key := by
  have absent : heap.lookup node = none := by simpa [wasInserted] using fresh
  simp [getKey, lookup_insert, absent]

theorem getKey_decreaseKey (heap : QueryHeap) (node m : Nat) (key : Int) :
    (heap.decreaseKey node key).getKey m =
      if node = m ∧ heap.wasInserted m = true then key else heap.getKey m := by
  cases found : heap.lookup m with
  | none => simp [getKey, wasInserted, lookup_decreaseKey, found]
  | some entry =>
    have at_m := lookup_node found
    by_cases same : node = m
    · subst same
      simp [getKey, wasInserted, lookup_decreaseKey, found, at_m]
    · simp [getKey, wasInserted, lookup_decreaseKey, found, at_m, Ne.symm same, same]

/-- An empty heap holds no node. -/
theorem empty_of_inserted {heap : QueryHeap} (done : heap.empty = true) {entry : HeapNode}
    (member : entry ∈ heap.insertedNodes) : entry.removed = true :=
  List.all_eq_true.mp done entry member

end QueryHeap

namespace RoutingAlgorithms

variable (g : QueryGraph)

/-! ### Road walks of a search -/

/-- A walk of the road network that a search in `forwardDirection` stands for: from the seed `x`
to `node` for the forward search, from `node` to the seed for the backward one. -/
def RoadWalk : Bool → Nat → Nat → Int → Prop
  | true, x, node, weight => g.Walk x node weight
  | false, x, node, weight => g.Walk node x weight

/-- `key` is at most the weight of every road walk from a seed to `node`, seed key included. -/
def Below (forwardDirection : Bool) (seed : Nat → Int → Prop) (node : Nat) (key : Int) : Prop :=
  ∀ x k w, seed x k → RoadWalk g forwardDirection x node w → key ≤ k + w

variable {g} {forwardDirection : Bool}

theorem roadWalk_of_searchWalk {x v : Nat} {w : Int} (walk : g.SearchWalk forwardDirection x v w) :
    RoadWalk g forwardDirection x v w := by
  cases forwardDirection
  · exact walk.toWalk_backward
  · exact walk.toWalk_forward

/-- A road walk extends along an arc its search reads. -/
theorem RoadWalk.searchArc {x p v : Nat} {w e : Int} (walk : RoadWalk g forwardDirection x p w)
    (arc : g.SearchArc forwardDirection p v e) : RoadWalk g forwardDirection x v (w + e) := by
  cases forwardDirection
  · rw [Int.add_comm]
    exact QueryGraph.Walk.cons (Or.inr arc) walk
  · exact QueryGraph.Walk.snoc walk (Or.inl arc)

/-- A road walk extends along an arc `StallAtNode` reads, against its search's direction. -/
theorem RoadWalk.opposite {x u p : Nat} {w e : Int} (walk : RoadWalk g forwardDirection x u w)
    (arc : g.SearchArc (!forwardDirection) p u e) : RoadWalk g forwardDirection x p (w + e) := by
  cases forwardDirection
  · rw [Int.add_comm]
    exact QueryGraph.Walk.cons (Or.inl arc) walk
  · exact QueryGraph.Walk.snoc walk (Or.inr arc)

section Below

variable {seed : Nat → Int → Prop}

theorem Below.le_of_reached {node : Nat} {key reached : Int}
    (below : Below g forwardDirection seed node key)
    (found : Reached g forwardDirection seed node reached) : key ≤ reached := by
  obtain ⟨x, k, w, seeded, walk, rfl⟩ := found
  exact below x k w seeded (roadWalk_of_searchWalk walk)

/-- A bound at the head of an arc gives one at its tail, the arc's weight lower. -/
theorem Below.of_arc {p v : Nat} {key e : Int} (below : Below g forwardDirection seed v (key + e))
    (arc : g.SearchArc forwardDirection p v e) : Below g forwardDirection seed p key := by
  intro x k w seeded walk
  have := below x k (w + e) seeded (walk.searchArc arc)
  omega

/-- `StallAtNode` does not skip a node settled at a key below every road walk to it: a stalling
neighbour's key plus its arc would be a shorter one. -/
theorem stallAtNode_of_below {heap : QueryHeap} (attained : Attained g forwardDirection seed heap)
    {node : Nat} {key : Int} (below : Below g forwardDirection seed node key) :
    stallAtNode g forwardDirection node key heap = false := by
  unfold stallAtNode
  rw [List.any_eq_false]
  intro edge member stalls
  simp only [Bool.and_eq_true, decide_eq_true_eq] at stalls
  obtain ⟨⟨flagged, inserted⟩, shorter⟩ := stalls
  obtain ⟨entry, logged, same, key_eq⟩ := QueryHeap.getKey_mem inserted
  obtain ⟨x, k, w, seeded, walk, reached⟩ := attained entry logged
  rw [same] at walk
  have longer := below x k (w + edge.distance) seeded
    ((roadWalk_of_searchWalk walk).opposite ⟨edge, member, rfl, flagged, rfl⟩)
  omega

end Below

/-! ### Keys in the heap never rise -/

theorem inHeap_iff {heap : QueryHeap} {node : Nat} :
    InHeap heap node ↔ heap.wasInserted node = true ∧ ¬ Removed heap node := by
  simp [InHeap, Removed]

theorem InHeap.busy {heap : QueryHeap} {node : Nat} (live : InHeap heap node) :
    heap.empty = false := by
  obtain ⟨entry, member, same, -⟩ := QueryHeap.getKey_mem live.1
  cases done : heap.empty
  · rfl
  · exact absurd (QueryHeap.empty_of_inserted done member) (by simp [live.2 entry member same])

theorem getKey_relaxEdge_le (distance : Int) {heap : QueryHeap} (edge : QueryEdge) {m : Nat}
    (inserted : heap.wasInserted m = true) :
    (relaxEdge forwardDirection distance heap edge).getKey m ≤ heap.getKey m := by
  unfold relaxEdge
  dsimp only
  split_ifs with flagged fresh lower
  · rw [QueryHeap.getKey_insert_of_inserted inserted]
  · rw [QueryHeap.getKey_decreaseKey]
    split_ifs with same
    · rw [← same.1]
      exact le_of_lt lower
    · exact le_refl _
  · exact le_refl _
  · exact le_refl _

/-- Relaxing an edge its search reads leaves the edge's target inserted at most at the key plus
the edge's weight. -/
theorem relaxEdge_target (distance : Int) (heap : QueryHeap) {edge : QueryEdge}
    (flagged : edge.directionFlag forwardDirection = true) :
    (relaxEdge forwardDirection distance heap edge).wasInserted edge.target = true ∧
      (relaxEdge forwardDirection distance heap edge).getKey edge.target ≤
        distance + edge.distance := by
  unfold relaxEdge
  dsimp only
  rw [if_pos flagged]
  split_ifs with fresh lower
  · exact ⟨by simp, le_of_eq (QueryHeap.getKey_insert_self (by simpa using fresh) _)⟩
  · have inserted : heap.wasInserted edge.target = true := by simpa using fresh
    rw [QueryHeap.getKey_decreaseKey, if_pos ⟨rfl, inserted⟩]
    exact ⟨by simpa using inserted, le_refl _⟩
  · exact ⟨by simpa using fresh, not_lt.mp lower⟩

theorem foldl_relaxEdge_keeps (distance : Int) (edges : List QueryEdge) {heap : QueryHeap}
    {m : Nat} {bound : Int} (inserted : heap.wasInserted m = true) (le : heap.getKey m ≤ bound) :
    (edges.foldl (relaxEdge forwardDirection distance) heap).wasInserted m = true ∧
      (edges.foldl (relaxEdge forwardDirection distance) heap).getKey m ≤ bound := by
  induction edges generalizing heap with
  | nil => exact ⟨inserted, le⟩
  | cons edge rest ih =>
    exact ih (wasInserted_relaxEdge _ _ edge inserted)
      (le_trans (getKey_relaxEdge_le _ edge inserted) le)

/-- After `RelaxOutgoingEdges` at `node`, the head of every arc the search reads there is inserted
at most at the key plus the arc. -/
theorem relaxOutgoingEdges_arc {node target : Nat} {distance e : Int} (heap : QueryHeap)
    (arc : g.SearchArc forwardDirection node target e) :
    (relaxOutgoingEdges g forwardDirection node distance heap).wasInserted target = true ∧
      (relaxOutgoingEdges g forwardDirection node distance heap).getKey target ≤ distance + e := by
  obtain ⟨edge, member, rfl, flagged, rfl⟩ := arc
  unfold relaxOutgoingEdges
  generalize g.adjacentEdges node = edges at member
  induction edges generalizing heap with
  | nil => cases member
  | cons first rest ih =>
    rw [List.foldl_cons]
    rcases List.mem_cons.mp member with rfl | later
    · obtain ⟨inserted, le⟩ := relaxEdge_target distance heap flagged
      exact foldl_relaxEdge_keeps distance rest inserted le
    · exact ih _ later

theorem getKey_relaxOutgoingEdges_le (node : Nat) (distance : Int) {heap : QueryHeap} {m : Nat}
    (inserted : heap.wasInserted m = true) :
    (relaxOutgoingEdges g forwardDirection node distance heap).getKey m ≤ heap.getKey m :=
  (foldl_relaxEdge_keeps distance _ inserted (le_refl _)).2

/-- The key an iteration settles at is the key its node held. -/
theorem settleNext_key {heap : QueryHeap} (busy : heap.empty = false) :
    (settleNext g forwardDirection heap).2.1 = heap.getKey (settleNext g forwardDirection heap).1 := by
  obtain ⟨best, -, -, deleted⟩ := QueryHeap.deleteMin_of_busy busy
  simp [settleNext, deleted]

theorem attained_deleteMin {seed : Nat → Int → Prop} {heap : QueryHeap}
    (attained : Attained g forwardDirection seed heap) :
    Attained g forwardDirection seed heap.deleteMin.2 := by
  unfold QueryHeap.deleteMin
  split
  · exact attained
  · exact attained_removeNode _ attained

theorem getKey_deleteMin (heap : QueryHeap) (m : Nat) : heap.deleteMin.2.getKey m = heap.getKey m := by
  unfold QueryHeap.deleteMin
  split <;> simp

theorem wasInserted_deleteMin (heap : QueryHeap) (m : Nat) :
    heap.deleteMin.2.wasInserted m = heap.wasInserted m := by
  unfold QueryHeap.deleteMin
  split <;> simp

/-- An iteration never raises the key of an inserted node. -/
theorem getKey_settleNext_le {heap : QueryHeap} {m : Nat} (inserted : heap.wasInserted m = true) :
    (settleNext g forwardDirection heap).2.2.getKey m ≤ heap.getKey m := by
  have taken : heap.deleteMin.2.wasInserted m = true := by rw [wasInserted_deleteMin]; exact inserted
  unfold settleNext
  dsimp only
  split
  · exact le_of_eq (getKey_deleteMin _ _)
  · exact (getKey_relaxOutgoingEdges_le _ _ taken).trans (le_of_eq (getKey_deleteMin _ _))

/-- An iteration that settles another node keeps a node in the heap, its key not higher. -/
theorem settleNext_inHeap {heap : QueryHeap} {node : Nat} (live : InHeap heap node)
    (other : (settleNext g forwardDirection heap).1 ≠ node) :
    InHeap (settleNext g forwardDirection heap).2.2 node ∧
      (settleNext g forwardDirection heap).2.2.getKey node ≤ heap.getKey node := by
  rw [inHeap_iff] at live ⊢
  exact ⟨⟨wasInserted_settleNext g _ live.1, fun gone =>
      ((removed_settleNext g forwardDirection heap node).2 gone).elim live.2 (other ∘ Eq.symm)⟩,
    getKey_settleNext_le live.1⟩

/-! ### Whole sweeps -/

theorem settleRun_succ {fuel : Nat} {heap : QueryHeap} (busy : heap.empty = false) :
    settleRun g forwardDirection (fuel + 1) heap =
      (((settleNext g forwardDirection heap).1, (settleNext g forwardDirection heap).2.1) ::
          (settleRun g forwardDirection fuel (settleNext g forwardDirection heap).2.2).1,
        (settleRun g forwardDirection fuel (settleNext g forwardDirection heap).2.2).2) := by
  rw [settleRun, if_neg (by simp [busy])]

/-- A sweep that ends empty settles every node still in the heap, at most at its key. -/
theorem settleRun_inHeap {fuel : Nat} {heap : QueryHeap} {node : Nat} (live : InHeap heap node)
    (done : (settleRun g forwardDirection fuel heap).2.empty = true) :
    ∃ key ≤ heap.getKey node, (node, key) ∈ (settleRun g forwardDirection fuel heap).1 := by
  induction fuel generalizing heap with
  | zero => simp [settleRun, live.busy] at done
  | succ fuel ih =>
    rw [settleRun_succ live.busy] at done ⊢
    by_cases same : (settleNext g forwardDirection heap).1 = node
    · refine ⟨(settleNext g forwardDirection heap).2.1,
        ((settleNext_key live.busy).trans (congrArg heap.getKey same)).le, ?_⟩
      rw [← same]
      exact List.mem_cons_self _ _
    · obtain ⟨kept, lower⟩ := settleNext_inHeap live same
      obtain ⟨key, le, member⟩ := ih kept done
      exact ⟨key, le_trans le lower, List.mem_cons_of_mem _ member⟩

/-- The iteration that settles a node: the heap before it, and the rest of the sweep after it. -/
theorem settleRun_split {node : Nat} {key : Int} : ∀ {fuel : Nat} {heap : QueryHeap},
    (node, key) ∈ (settleRun g forwardDirection fuel heap).1 →
    ∃ j, (settleRun g forwardDirection j heap).2.empty = false ∧
      (settleNext g forwardDirection (settleRun g forwardDirection j heap).2).1 = node ∧
      (settleNext g forwardDirection (settleRun g forwardDirection j heap).2).2.1 = key ∧
      ∃ rest, settleRun g forwardDirection fuel heap =
        ((settleRun g forwardDirection j heap).1 ++ (node, key) :: (settleRun g forwardDirection rest
            (settleNext g forwardDirection (settleRun g forwardDirection j heap).2).2.2).1,
          (settleRun g forwardDirection rest
            (settleNext g forwardDirection (settleRun g forwardDirection j heap).2).2.2).2)
  | 0, _, member => by cases member
  | fuel + 1, heap, member => by
    cases busy : heap.empty
    · rw [settleRun_succ busy] at member ⊢
      rcases List.mem_cons.mp member with head | later
      · obtain ⟨rfl, rfl⟩ := Prod.mk.inj head
        exact ⟨0, busy, rfl, rfl, fuel, rfl⟩
      · obtain ⟨j, busy', settles, keyed, rest, split⟩ := settleRun_split later
        refine ⟨j + 1, ?_⟩
        rw [settleRun_succ busy]
        exact ⟨busy', settles, keyed, rest, by rw [split]; rfl⟩
    · simp [settleRun, busy] at member

theorem attained_settleRun {seed : Nat → Int → Prop} (fuel : Nat) {heap : QueryHeap}
    (attained : Attained g forwardDirection seed heap) :
    Attained g forwardDirection seed (settleRun g forwardDirection fuel heap).2 := by
  induction fuel generalizing heap with
  | zero => exact attained
  | succ fuel ih =>
    cases busy : heap.empty
    · rw [settleRun_succ busy]
      exact ih (settleNext_spec attained busy).2
    · simpa [settleRun, busy] using attained

/-! ### Dijkstra's argument -/

section Exact

variable {seed : Nat → Int → Prop} {floor : Int} {fuel : Nat} {heap : QueryHeap}
  (sweeping : Sweeping g floor heap) (attained : Attained g forwardDirection seed heap)
  (fresh : ∀ entry ∈ heap.insertedNodes, entry.removed = false)
  (done : (settleRun g forwardDirection fuel heap).2.empty = true)
include sweeping attained fresh done

/-- The head of the last arc of a tight walk is settled after the arc's tail. Settling the tail at
its exact key leaves the head in the heap at most at its own key: no earlier iteration settled
it, since every key settled before is below the head's key. -/
theorem settleRun_exact_arc {p v : Nat} {key e : Int}
    (settled : (p, key) ∈ (settleRun g forwardDirection fuel heap).1)
    (tight : Below g forwardDirection seed p key) (arc : g.SearchArc forwardDirection p v e)
    (below : Below g forwardDirection seed v (key + e)) :
    (v, key + e) ∈ (settleRun g forwardDirection fuel heap).1 := by
  have positive := arc.distance_pos
  have reached := settleRun_reached fuel attained
  obtain ⟨sorted, -, -⟩ := sweeping.settleRun forwardDirection fuel
  obtain ⟨j, -, settles, keyed, rest, split⟩ := settleRun_split settled
  rw [split] at sorted reached done ⊢
  rw [List.map_append, List.Sorted, List.pairwise_append] at sorted
  set before := (settleRun g forwardDirection j heap).2
  have relaxed : (settleNext g forwardDirection before).2.2 =
      relaxOutgoingEdges g forwardDirection p key before.deleteMin.2 := by
    unfold settleNext at settles keyed ⊢
    dsimp only at settles keyed ⊢
    rw [settles] at keyed ⊢
    rw [keyed, stallAtNode_of_below (attained_deleteMin (attained_settleRun j attained)) tight]
    exact if_neg Bool.false_ne_true
  have kept : ¬ Removed (settleNext g forwardDirection before).2.2 v := by
    intro gone
    rcases (removed_settleNext g forwardDirection before v).2 gone with earlier | same
    · rcases removed_settleRun g forwardDirection j earlier with ⟨entry, logged, -, taken⟩ | ⟨k, member⟩
      · simp [fresh entry logged] at taken
      · have lower : k ≤ key := sorted.2.2 k (List.mem_map_of_mem (·.2) member) key (by simp)
        have := below.le_of_reached (reached _ (List.mem_append_left _ member))
        omega
    · rw [same, settles] at below
      have := below.le_of_reached (reached _ (List.mem_append_right _ (List.mem_cons_self _ _)))
      omega
  obtain ⟨inserted, lowered⟩ : _ ∧ _ ≤ key + e := relaxOutgoingEdges_arc before.deleteMin.2 arc
  rw [← relaxed] at inserted lowered
  obtain ⟨k, lower, member⟩ := settleRun_inHeap (inHeap_iff.mpr ⟨inserted, kept⟩) done
  have later := List.mem_append_right (settleRun g forwardDirection j heap).1
    (List.mem_cons_of_mem (p, key) member)
  have higher := below.le_of_reached (reached _ later)
  rwa [show k = key + e by omega] at later

/-- Dijkstra's invariant for the sweep: a node at the end of a search walk from a seed, whose
weight is at most that of every road walk from a seed, is settled at exactly that weight. -/
theorem settleRun_exact (seeded : ∀ x k, seed x k → heap.wasInserted x = true ∧ heap.getKey x ≤ k)
    {x v : Nat} {k w : Int} (seededAt : seed x k)
    (walk : g.SearchWalk forwardDirection x v w) (below : Below g forwardDirection seed v (k + w)) :
    (v, k + w) ∈ (settleRun g forwardDirection fuel heap).1 := by
  induction walk with
  | nil =>
    obtain ⟨inserted, le⟩ := seeded x k seededAt
    have live : InHeap heap x :=
      inHeap_iff.mpr ⟨inserted, fun ⟨entry, logged, _, taken⟩ => by simp [fresh entry logged] at taken⟩
    obtain ⟨key, lower, member⟩ := settleRun_inHeap live done
    have higher := below.le_of_reached (settleRun_reached fuel attained _ member)
    rwa [show key = k + 0 by omega] at member
  | snoc _ arc ih =>
    rw [← Int.add_assoc] at below ⊢
    have tight := below.of_arc arc
    exact settleRun_exact_arc sweeping attained fresh done (ih tight) tight arc below

end Exact

end RoutingAlgorithms

end Osrm.Engine
