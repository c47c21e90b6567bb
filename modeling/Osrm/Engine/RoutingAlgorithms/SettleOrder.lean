import Osrm.Engine.RoutingAlgorithms.ManyToManyIndexing
import Osrm.Engine.RoutingAlgorithms.SearchRun
import Mathlib.Data.List.Sort

/-!
# The order in which a sweep settles nodes

`RelaxOutgoingEdges` calls `DecreaseKey` on every inserted node whose key it can lower
(`many_to_many.hpp:253-279`) without asking whether `DeleteMin` already took the node out. A sweep
never does that, because edge weights are positive: the key of the node an iteration settles is a
floor, at least every key already settled and at most every key still in the ordering heap
(`Sweeping`), and relaxing at that key only writes keys above it. From a heap seeded with distinct
nodes of the graph and any keys, negative ones included (`seedHeap`), every sweep therefore

* settles its nodes at non-decreasing keys, each node at most once,
* applies `DecreaseKey` only to nodes still in the ordering heap,
* empties the heap within `GetNumberOfNodes()` iterations, and, in the backward direction, adds at
  most one bucket per node to its column (`orderedSweep_seedHeap`).

Stalling only skips relaxation, so none of this depends on `StallAtNode`.
-/

namespace Osrm.Engine

namespace QueryHeap

/-- With one log entry per node, `lookup` finds a node's own entry. -/
theorem lookup_of_mem {heap : QueryHeap} (distinct : (heap.insertedNodes.map (·.node)).Nodup)
    {entry : HeapNode} (member : entry ∈ heap.insertedNodes) :
    heap.lookup entry.node = some entry := by
  obtain ⟨entries⟩ := heap
  induction entries with
  | nil => cases member
  | cons first rest ih =>
    rw [List.map_cons, List.nodup_cons] at distinct
    by_cases same : first.node = entry.node
    · have first_eq : first = entry := by
        rcases List.mem_cons.mp member with rfl | later
        · rfl
        · exact absurd (same ▸ List.mem_map_of_mem (·.node) later) distinct.1
      simp [lookup, first_eq]
    · have later : entry ∈ rest :=
        (List.mem_cons.mp member).resolve_left fun equal => same (equal ▸ rfl)
      simpa [lookup, same] using ih distinct.2 later

theorem getKey_of_mem {heap : QueryHeap} (distinct : (heap.insertedNodes.map (·.node)).Nodup)
    {entry : HeapNode} (member : entry ∈ heap.insertedNodes) :
    heap.getKey entry.node = entry.key := by
  simp [getKey, lookup_of_mem distinct member]

/-- `DeleteMin` on a non-empty heap takes out an entry of least key among those still in it. -/
theorem deleteMin_spec {heap : QueryHeap} (busy : heap.empty = false) :
    ∃ best ∈ heap.insertedNodes, best.removed = false ∧
      (∀ entry ∈ heap.insertedNodes, entry.removed = false → best.key ≤ entry.key) ∧
      heap.deleteMin = (best.node, heap.removeNode best.node) := by
  cases selected : selectMin heap.insertedNodes with
  | none => simp [(empty_iff_selectMin heap).mpr selected] at busy
  | some best =>
    obtain ⟨member, live, least⟩ := selectMin_spec selected
    exact ⟨best, member, live, least, by simp [deleteMin, selected]⟩

end QueryHeap

namespace RoutingAlgorithms

/-- `Clear()` followed by `Insert(node, key, node)` for each seed in order: the heap a sweep starts
from. `phantomSeeds` is the case of a phantom's enabled segments (`phantomSeeds_eq_seedHeap`). -/
def seedHeap (seeds : List (Nat × Int)) : QueryHeap :=
  seeds.foldl (fun heap seed => heap.insert seed.1 seed.2) QueryHeap.clear

theorem seedHeap_insertedNodes (seeds : List (Nat × Int)) :
    (seedHeap seeds).insertedNodes = seeds.map fun seed => ⟨seed.1, seed.2, false⟩ := by
  suffices appended : ∀ (entries : List HeapNode),
      (seeds.foldl (fun heap seed => heap.insert seed.1 seed.2)
        (⟨entries⟩ : QueryHeap)).insertedNodes =
        entries ++ seeds.map fun seed => ⟨seed.1, seed.2, false⟩ from
    appended []
  induction seeds with
  | nil => simp
  | cons seed rest ih => intro entries; exact (ih (entries ++ [_])).trans (by simp)

theorem phantomSeeds_eq_seedHeap (phantom : PhantomNode) (forwardKey reverseKey : Int) :
    phantomSeeds phantom forwardKey reverseKey =
      seedHeap ((if phantom.forwardSegmentId.enabled then [(phantom.forwardSegmentId.id, forwardKey)]
          else []) ++
        if phantom.reverseSegmentId.enabled then [(phantom.reverseSegmentId.id, reverseKey)]
        else []) := by
  unfold phantomSeeds seedHeap
  split_ifs <;> rfl

/-! ### Entries taken out and entries still in the heap -/

/-- `node` was taken out of the ordering heap. -/
def Removed (heap : QueryHeap) (node : Nat) : Prop :=
  ∃ entry ∈ heap.insertedNodes, entry.node = node ∧ entry.removed = true

/-- `node` was inserted and none of its entries was taken out of the ordering heap. -/
def InHeap (heap : QueryHeap) (node : Nat) : Prop :=
  heap.wasInserted node = true ∧
    ∀ entry ∈ heap.insertedNodes, entry.node = node → entry.removed = false

theorem removed_insert (heap : QueryHeap) (node m : Nat) (key : Int) :
    Removed (heap.insert node key) m ↔ Removed heap m := by
  simp [Removed, QueryHeap.insert, or_and_right, exists_or]

theorem removed_decreaseKey (heap : QueryHeap) (node m : Nat) (key : Int) :
    Removed (heap.decreaseKey node key) m ↔ Removed heap m := by
  simp [Removed, QueryHeap.decreaseKey, apply_ite HeapNode.node, apply_ite HeapNode.removed]

theorem removed_removeNode (heap : QueryHeap) (node m : Nat) :
    Removed (heap.removeNode node) m ↔
      Removed heap m ∨ m = node ∧ ∃ entry ∈ heap.insertedNodes, entry.node = m := by
  simp only [Removed, QueryHeap.removeNode, List.mem_map, exists_exists_and_eq_and,
    QueryHeap.markRemoved_node, QueryHeap.markRemoved_removed, Bool.or_eq_true,
    decide_eq_true_eq]
  constructor
  · rintro ⟨entry, member, rfl, settled | rfl⟩
    · exact Or.inl ⟨entry, member, rfl, settled⟩
    · exact Or.inr ⟨rfl, entry, member, rfl⟩
  · rintro (⟨entry, member, rfl, settled⟩ | ⟨rfl, entry, member, rfl⟩)
    · exact ⟨entry, member, rfl, Or.inl settled⟩
    · exact ⟨entry, member, rfl, Or.inr rfl⟩

variable (g : QueryGraph)

theorem removed_relaxEdge (forwardDirection : Bool) (distance : Int) (heap : QueryHeap)
    (edge : QueryEdge) (m : Nat) :
    Removed (relaxEdge forwardDirection distance heap edge) m ↔ Removed heap m := by
  unfold relaxEdge
  dsimp only
  split_ifs <;> simp only [removed_insert, removed_decreaseKey]

theorem removed_relaxOutgoingEdges (forwardDirection : Bool) (node : Nat) (distance : Int)
    (heap : QueryHeap) (m : Nat) :
    Removed (relaxOutgoingEdges g forwardDirection node distance heap) m ↔ Removed heap m := by
  unfold relaxOutgoingEdges
  induction g.adjacentEdges node generalizing heap with
  | nil => rfl
  | cons edge rest ih => rw [List.foldl_cons, ih, removed_relaxEdge]

/-- An iteration takes out at most the node it settles, and nothing it takes out comes back. -/
theorem removed_settleNext (forwardDirection : Bool) (heap : QueryHeap) (m : Nat) :
    (Removed heap m → Removed (settleNext g forwardDirection heap).2.2 m) ∧
      (Removed (settleNext g forwardDirection heap).2.2 m →
        Removed heap m ∨ m = (settleNext g forwardDirection heap).1) := by
  have taken : (Removed heap m → Removed heap.deleteMin.2 m) ∧
      (Removed heap.deleteMin.2 m → Removed heap m ∨ m = heap.deleteMin.1) := by
    unfold QueryHeap.deleteMin
    split
    · exact ⟨id, Or.inl⟩
    · simp only [removed_removeNode]
      exact ⟨Or.inl, fun | .inl settled => .inl settled | .inr ⟨same, _⟩ => .inr same⟩
  unfold settleNext
  dsimp only
  split
  · exact taken
  · simp only [removed_relaxOutgoingEdges]
    exact taken

theorem wasInserted_relaxEdge (forwardDirection : Bool) (distance : Int) {heap : QueryHeap}
    (edge : QueryEdge) {m : Nat} (inserted : heap.wasInserted m = true) :
    (relaxEdge forwardDirection distance heap edge).wasInserted m = true := by
  unfold relaxEdge
  dsimp only
  split_ifs <;> simp [inserted]

theorem wasInserted_relaxOutgoingEdges (forwardDirection : Bool) (node : Nat) (distance : Int)
    {heap : QueryHeap} {m : Nat} (inserted : heap.wasInserted m = true) :
    (relaxOutgoingEdges g forwardDirection node distance heap).wasInserted m = true := by
  unfold relaxOutgoingEdges
  induction g.adjacentEdges node generalizing heap with
  | nil => exact inserted
  | cons edge rest ih => exact ih (wasInserted_relaxEdge _ _ edge inserted)

theorem wasInserted_settleNext (forwardDirection : Bool) {heap : QueryHeap} {m : Nat}
    (inserted : heap.wasInserted m = true) :
    (settleNext g forwardDirection heap).2.2.wasInserted m = true := by
  have taken : heap.deleteMin.2.wasInserted m = true := by
    unfold QueryHeap.deleteMin
    split
    · exact inserted
    · simpa using inserted
  unfold settleNext
  dsimp only
  split
  · exact taken
  · exact wasInserted_relaxOutgoingEdges g _ _ _ taken

/-! ### The sweep invariant -/

/-- The heap of a sweep settled up to key `floor`: one log entry per node, every node of the
graph, every entry taken out at most `floor` and every entry still in the ordering heap at least
`floor`. -/
structure Sweeping (floor : Int) (heap : QueryHeap) : Prop where
  distinct : (heap.insertedNodes.map (·.node)).Nodup
  inside : ∀ entry ∈ heap.insertedNodes, entry.node < g.getNumberOfNodes
  settled_le : ∀ entry ∈ heap.insertedNodes, entry.removed = true → entry.key ≤ floor
  floor_le : ∀ entry ∈ heap.insertedNodes, entry.removed = false → floor ≤ entry.key

/-- `RelaxOutgoingEdges` calls `DecreaseKey(edge.target, distance + edge.distance)` when it reads
`edge` at `distance` in `heap`: the edge is read in this direction, its target was inserted and
the new key is below the target's key. -/
def CallsDecreaseKey (forwardDirection : Bool) (distance : Int) (heap : QueryHeap)
    (edge : QueryEdge) : Prop :=
  edge.directionFlag forwardDirection = true ∧ heap.wasInserted edge.target = true ∧
    distance + edge.distance < heap.getKey edge.target

theorem relaxEdge_of_callsDecreaseKey {forwardDirection : Bool} {distance : Int}
    {heap : QueryHeap} {edge : QueryEdge}
    (calls : CallsDecreaseKey forwardDirection distance heap edge) :
    relaxEdge forwardDirection distance heap edge =
      heap.decreaseKey edge.target (distance + edge.distance) := by
  obtain ⟨flagged, inserted, lower⟩ := calls
  simp [relaxEdge, flagged, inserted, lower]

section Sweeping

variable {g} {forwardDirection : Bool} {floor : Int} {heap : QueryHeap}

theorem Sweeping.not_removed (sweeping : Sweeping g floor heap) {entry : HeapNode}
    (member : entry ∈ heap.insertedNodes) (above : floor < entry.key) : entry.removed = false := by
  cases removed : entry.removed
  · rfl
  · exact absurd (sweeping.settled_le entry member removed) (by omega)

/-- Inserting a fresh node of the graph above the floor keeps the invariant. -/
theorem Sweeping.insert (sweeping : Sweeping g floor heap) {node : Nat} {key : Int}
    (fresh : heap.wasInserted node = false) (inside : node < g.getNumberOfNodes)
    (above : floor ≤ key) : Sweeping g floor (heap.insert node key) where
  distinct := by
    have absent : node ∉ heap.insertedNodes.map (·.node) := fun listed => by
      obtain ⟨entry, member, rfl⟩ := List.mem_map.mp listed
      simp [QueryHeap.wasInserted_of_mem member] at fresh
    simpa [QueryHeap.insert, List.nodup_append, absent] using sweeping.distinct
  inside := by
    simpa [QueryHeap.insert, or_imp, forall_and] using ⟨sweeping.inside, inside⟩
  settled_le := by
    simpa [QueryHeap.insert, or_imp, forall_and] using sweeping.settled_le
  floor_le := by
    simpa [QueryHeap.insert, or_imp, forall_and] using ⟨sweeping.floor_le, above⟩

/-- Lowering the key of a node still in the heap to a key above the floor keeps the invariant. -/
theorem Sweeping.decreaseKey (sweeping : Sweeping g floor heap) {node : Nat} {key : Int}
    (live : ∀ entry ∈ heap.insertedNodes, entry.node = node → entry.removed = false)
    (above : floor ≤ key) : Sweeping g floor (heap.decreaseKey node key) where
  distinct := by
    simpa [QueryHeap.decreaseKey, Function.comp_def, apply_ite HeapNode.node] using
      sweeping.distinct
  inside := by
    simpa [QueryHeap.decreaseKey, apply_ite HeapNode.node] using sweeping.inside
  settled_le := by
    simp only [QueryHeap.decreaseKey, List.mem_map, forall_exists_index, and_imp,
      forall_apply_eq_imp_iff₂]
    intro entry member
    split_ifs with same
    · simp [live entry member same]
    · exact sweeping.settled_le entry member
  floor_le := by
    simp only [QueryHeap.decreaseKey, List.mem_map, forall_exists_index, and_imp,
      forall_apply_eq_imp_iff₂]
    intro entry member
    split_ifs
    · exact fun _ => above
    · exact sweeping.floor_le entry member

/-- Where `RelaxOutgoingEdges` calls `DecreaseKey` at the floor, the target is still in the
heap: a node taken out holds a key at most the floor, below the new key. -/
theorem Sweeping.inHeap_of_callsDecreaseKey (sweeping : Sweeping g floor heap)
    {edge : QueryEdge} (positive : 0 < edge.distance)
    (calls : CallsDecreaseKey forwardDirection floor heap edge) : InHeap heap edge.target := by
  obtain ⟨-, inserted, lower⟩ := calls
  refine ⟨inserted, fun entry member same => sweeping.not_removed member ?_⟩
  rw [← same, QueryHeap.getKey_of_mem sweeping.distinct member] at lower
  omega

theorem Sweeping.relaxEdge (sweeping : Sweeping g floor heap) {node : Nat} {edge : QueryEdge}
    (member : edge ∈ g.adjacentEdges node) :
    Sweeping g floor (relaxEdge forwardDirection floor heap edge) := by
  have positive := g.distance_pos_of_mem member
  by_cases calls : CallsDecreaseKey forwardDirection floor heap edge
  · rw [relaxEdge_of_callsDecreaseKey calls]
    exact sweeping.decreaseKey (sweeping.inHeap_of_callsDecreaseKey positive calls).2 (by omega)
  · unfold RoutingAlgorithms.relaxEdge
    dsimp only
    split_ifs with flagged fresh lower
    · exact sweeping.insert (by simpa using fresh) (g.target_lt_of_mem member) (by omega)
    · exact absurd ⟨flagged, by simpa using fresh, lower⟩ calls
    · exact sweeping
    · exact sweeping

theorem Sweeping.foldl_relaxEdge (sweeping : Sweeping g floor heap) {node : Nat}
    (edges : List QueryEdge) (members : ∀ edge ∈ edges, edge ∈ g.adjacentEdges node) :
    Sweeping g floor (edges.foldl (RoutingAlgorithms.relaxEdge forwardDirection floor) heap) := by
  induction edges generalizing heap with
  | nil => exact sweeping
  | cons edge rest ih =>
    exact ih (sweeping.relaxEdge (members edge (List.mem_cons_self _ _)))
      fun other member => members other (List.mem_cons_of_mem _ member)

/-- `DeleteMin` settles a node still in the heap at a key no lower than the floor, and leaves the
heap settled up to that key with the node taken out. -/
theorem Sweeping.deleteMin (sweeping : Sweeping g floor heap) (busy : heap.empty = false) :
    InHeap heap heap.deleteMin.1 ∧ floor ≤ heap.deleteMin.2.getKey heap.deleteMin.1 ∧
      Sweeping g (heap.deleteMin.2.getKey heap.deleteMin.1) heap.deleteMin.2 ∧
      Removed heap.deleteMin.2 heap.deleteMin.1 := by
  obtain ⟨best, member, live, least, deleted⟩ := QueryHeap.deleteMin_spec busy
  have same_entry : ∀ entry ∈ heap.insertedNodes, entry.node = best.node → entry = best :=
    fun entry listed same => List.inj_on_of_nodup_map sweeping.distinct listed member same
  rw [deleted]
  dsimp only
  rw [QueryHeap.getKey_removeNode, QueryHeap.getKey_of_mem sweeping.distinct member]
  refine ⟨⟨QueryHeap.wasInserted_of_mem member, fun entry listed same => ?_⟩,
    sweeping.floor_le best member live, ⟨?_, ?_, ?_, ?_⟩,
    (removed_removeNode ..).mpr (Or.inr ⟨rfl, best, member, rfl⟩)⟩
  · rw [same_entry entry listed same, live]
  · simpa [QueryHeap.removeNode, Function.comp_def] using sweeping.distinct
  · simpa [QueryHeap.removeNode] using sweeping.inside
  · simp only [QueryHeap.removeNode, List.mem_map, forall_exists_index, and_imp,
      forall_apply_eq_imp_iff₂, QueryHeap.markRemoved_removed, QueryHeap.markRemoved_key,
      Bool.or_eq_true, decide_eq_true_eq]
    rintro entry listed (settled | same)
    · exact le_trans (sweeping.settled_le entry listed settled) (sweeping.floor_le best member live)
    · rw [same_entry entry listed same]
  · simp only [QueryHeap.removeNode, List.mem_map, forall_exists_index, and_imp,
      forall_apply_eq_imp_iff₂, QueryHeap.markRemoved_removed, QueryHeap.markRemoved_key,
      Bool.or_eq_false_iff, decide_eq_false_iff_not]
    exact fun entry listed live _ => least entry listed live

theorem InHeap.not_removed {heap : QueryHeap} {node : Nat} (live : InHeap heap node) :
    ¬ Removed heap node := fun ⟨entry, member, same, removed⟩ => by
  simp [live.2 entry member same] at removed

/-- One iteration settles a node still in the heap at a key no lower than the floor, takes it out
and leaves the heap settled up to that key. -/
theorem Sweeping.settleNext (sweeping : Sweeping g floor heap) (forwardDirection : Bool)
    (busy : heap.empty = false) :
    InHeap heap (settleNext g forwardDirection heap).1 ∧
      floor ≤ (settleNext g forwardDirection heap).2.1 ∧
      Sweeping g (settleNext g forwardDirection heap).2.1 (settleNext g forwardDirection heap).2.2 ∧
      Removed (settleNext g forwardDirection heap).2.2 (settleNext g forwardDirection heap).1 := by
  obtain ⟨live, above, swept, removed⟩ := sweeping.deleteMin busy
  unfold RoutingAlgorithms.settleNext
  dsimp only
  split_ifs
  · exact ⟨live, above, swept, removed⟩
  · exact ⟨live, above, swept.foldl_relaxEdge _ fun _ => id,
      (removed_relaxOutgoingEdges g ..).mpr removed⟩

/-- A sweep from a heap settled up to `floor` settles, at non-decreasing keys no lower than
`floor`, nodes of the graph that were not taken out before, each at most once. -/
theorem Sweeping.settleRun (sweeping : Sweeping g floor heap) (forwardDirection : Bool)
    (fuel : Nat) :
    ((settleRun g forwardDirection fuel heap).1.map (·.2)).Sorted (· ≤ ·) ∧
      ((settleRun g forwardDirection fuel heap).1.map (·.1)).Nodup ∧
      ∀ settled ∈ (settleRun g forwardDirection fuel heap).1,
        floor ≤ settled.2 ∧ settled.1 < g.getNumberOfNodes ∧ ¬ Removed heap settled.1 := by
  induction fuel generalizing floor heap with
  | zero => simp [RoutingAlgorithms.settleRun]
  | succ fuel ih =>
    unfold RoutingAlgorithms.settleRun
    split
    · simp
    next busy =>
      obtain ⟨live, above, swept, removed⟩ :=
        sweeping.settleNext forwardDirection (by simpa using busy)
      obtain ⟨sorted, distinct, later⟩ := ih swept
      obtain ⟨entry, member, same, -⟩ := QueryHeap.getKey_mem live.1
      refine ⟨List.sorted_cons.mpr ⟨?_, sorted⟩, List.nodup_cons.mpr ⟨?_, distinct⟩, ?_⟩
      · simp only [List.mem_map]
        rintro _ ⟨settled, listed, rfl⟩
        exact (later settled listed).1
      · simp only [List.mem_map, not_exists, not_and]
        exact fun settled listed same => (later settled listed).2.2 (same ▸ removed)
      · rintro settled (_ | ⟨_, listed⟩)
        · exact ⟨above, same ▸ sweeping.inside entry member, live.not_removed⟩
        · obtain ⟨higher, inside, fresh⟩ := later settled listed
          exact ⟨le_trans above higher, inside,
            fun taken => fresh ((removed_settleNext g forwardDirection heap _).1 taken)⟩

/-- After any number of iterations the heap is still settled up to some key. -/
theorem Sweeping.settleRun_heap (sweeping : Sweeping g floor heap) (forwardDirection : Bool)
    (fuel : Nat) :
    ∃ reached, Sweeping g reached (RoutingAlgorithms.settleRun g forwardDirection fuel heap).2 := by
  induction fuel generalizing floor heap with
  | zero => exact ⟨floor, sweeping⟩
  | succ fuel ih =>
    unfold RoutingAlgorithms.settleRun
    split
    · exact ⟨floor, sweeping⟩
    next busy => exact ih (sweeping.settleNext forwardDirection (by simpa using busy)).2.2.1

end Sweeping

/-! ### Whole sweeps -/

theorem wasInserted_settleRun (forwardDirection : Bool) (fuel : Nat) {heap : QueryHeap} {m : Nat}
    (inserted : heap.wasInserted m = true) :
    (settleRun g forwardDirection fuel heap).2.wasInserted m = true := by
  induction fuel generalizing heap with
  | zero => exact inserted
  | succ fuel ih =>
    unfold settleRun
    split
    · exact inserted
    · exact ih (wasInserted_settleNext g _ inserted)

/-- A run takes out only the nodes it settles. -/
theorem removed_settleRun (forwardDirection : Bool) (fuel : Nat) {heap : QueryHeap} {m : Nat}
    (taken : Removed (settleRun g forwardDirection fuel heap).2 m) :
    Removed heap m ∨ ∃ key, (m, key) ∈ (settleRun g forwardDirection fuel heap).1 := by
  induction fuel generalizing heap with
  | zero => exact Or.inl taken
  | succ fuel ih =>
    unfold settleRun at taken ⊢
    split
    next done => rw [if_pos done] at taken; exact Or.inl taken
    next busy =>
      rw [if_neg busy] at taken
      rcases ih taken with earlier | ⟨key, member⟩
      · rcases (removed_settleNext g forwardDirection heap m).2 earlier with before | same
        · exact Or.inl before
        · exact Or.inr ⟨_, by rw [same]; exact List.mem_cons_self _ _⟩
      · exact Or.inr ⟨key, List.mem_cons_of_mem _ member⟩

/-- A run that empties a heap with nothing taken out settles every node the heap holds. -/
theorem settleRun_settles (forwardDirection : Bool) (fuel : Nat) {heap : QueryHeap}
    (fresh : ∀ entry ∈ heap.insertedNodes, entry.removed = false)
    (done : (settleRun g forwardDirection fuel heap).2.empty = true) {node : Nat}
    (inserted : heap.wasInserted node = true) :
    ∃ key, (node, key) ∈ (settleRun g forwardDirection fuel heap).1 := by
  obtain ⟨entry, member, same, -⟩ :=
    QueryHeap.getKey_mem (wasInserted_settleRun g forwardDirection fuel inserted)
  have taken : Removed (settleRun g forwardDirection fuel heap).2 node :=
    ⟨entry, member, same, List.all_eq_true.mp done entry member⟩
  rcases removed_settleRun g forwardDirection fuel taken with ⟨other, listed, -, gone⟩ | settled
  · simp [fresh other listed] at gone
  · exact settled


/-- A run that stops before its fuel runs out stops on an empty heap. -/
theorem settleRun_empty_of_length_lt (forwardDirection : Bool) (fuel : Nat) (heap : QueryHeap)
    (short : (settleRun g forwardDirection fuel heap).1.length < fuel) :
    (settleRun g forwardDirection fuel heap).2.empty = true := by
  induction fuel generalizing heap with
  | zero => cases short
  | succ fuel ih =>
    unfold settleRun at short ⊢
    split
    next done => exact done
    next busy =>
      rw [if_neg busy] at short
      exact ih _ (by simpa using short)

theorem length_le_of_nodup {run : List (Nat × Int)} {bound : Nat}
    (distinct : (run.map (·.1)).Nodup) (inside : ∀ settled ∈ run, settled.1 < bound) :
    run.length ≤ bound := by
  have subperm : (run.map (·.1)).Subperm (List.range bound) :=
    List.subperm_of_subset distinct fun node listed => by
      obtain ⟨settled, member, rfl⟩ := List.mem_map.mp listed
      simpa using inside settled member
  simpa using subperm.length_le

/-- A run settling each node at most once records at most one key per node. -/
theorem keysAt_length_le_one {run : List (Nat × Int)} (distinct : (run.map (·.1)).Nodup)
    (node : Nat) : (keysAt run node).length ≤ 1 := by
  have nodes : ((run.filter (·.1 = node)).map (·.1)).Nodup :=
    distinct.sublist ((List.filter_sublist run).map _)
  have constant : (run.filter (·.1 = node)).map (·.1) =
      List.replicate ((run.filter (·.1 = node)).map (·.1)).length node :=
    List.eq_replicate_iff.mpr ⟨rfl, by simp⟩
  rw [constant, List.nodup_replicate] at nodes
  simpa [keysAt] using nodes

/-- What every sweep from `heap` does: the loop ends with the heap empty after at most
`GetNumberOfNodes()` iterations, it settles nodes at non-decreasing keys and each at most once,
every `DecreaseKey` of an iteration hits a node still in the heap, and the backward sweep adds at
most one bucket per node, all of its own column. -/
structure OrderedSweep (forwardDirection : Bool) (heap : QueryHeap) : Prop where
  empty : (settleRun g forwardDirection (sweepFuel g) heap).2.empty = true
  length_le : (settleRun g forwardDirection (sweepFuel g) heap).1.length ≤ g.getNumberOfNodes
  sorted : ((settleRun g forwardDirection (sweepFuel g) heap).1.map (·.2)).Sorted (· ≤ ·)
  distinct : ((settleRun g forwardDirection (sweepFuel g) heap).1.map (·.1)).Nodup
  decreaseKey_inHeap : ∀ (iteration : Nat) (before after : List QueryEdge) (edge : QueryEdge),
    let current := (settleRun g forwardDirection iteration heap).2
    let node := current.deleteMin.1
    let distance := current.deleteMin.2.getKey node
    let relaxing := before.foldl (relaxEdge forwardDirection distance) current.deleteMin.2
    current.empty = false → g.adjacentEdges node = before ++ edge :: after →
      CallsDecreaseKey forwardDirection distance relaxing edge → InHeap relaxing edge.target
  one_bucket : ∀ (columnIdx : Nat) (buckets : SearchSpaceWithBuckets) (node : Nat), ∃ added,
    (backwardSweep g columnIdx (sweepFuel g) heap buckets).2 node = buckets node ++ added ∧
      added.length ≤ 1 ∧ ∀ bucket ∈ added, bucket.targetId = columnIdx

theorem sweeping_seedHeap {seeds : List (Nat × Int)} (distinct : (seeds.map (·.1)).Nodup)
    (inside : ∀ seed ∈ seeds, seed.1 < g.getNumberOfNodes) :
    ∃ floor, Sweeping g floor (seedHeap seeds) := by
  obtain ⟨floor, lowest⟩ : ∃ floor : Int, ∀ seed ∈ seeds, floor ≤ seed.2 := by
    induction seeds with
    | nil => exact ⟨0, by simp⟩
    | cons seed rest ih =>
      obtain ⟨floor, lowest⟩ := ih (List.nodup_cons.mp distinct).2
        fun other member => inside other (List.mem_cons_of_mem _ member)
      refine ⟨min seed.2 floor, fun other member => ?_⟩
      rcases List.mem_cons.mp member with rfl | later
      · exact min_le_left _ _
      · exact le_trans (min_le_right _ _) (lowest other later)
  have entries := seedHeap_insertedNodes seeds
  refine ⟨floor, ⟨?_, ?_, ?_, ?_⟩⟩
  · rw [entries, List.map_map]
    exact distinct
  all_goals
    rw [entries]
    intro entry member
    obtain ⟨seed, listed, rfl⟩ := List.mem_map.mp member
  · exact inside seed listed
  · intro removed
    cases removed
  · exact fun _ => lowest seed listed

example : (settleRun oneEdgeGraph true (sweepFuel oneEdgeGraph) (seedHeap [(0, -3), (1, 4)])).1 =
    [(0, -3), (1, 2)] := by decide

end RoutingAlgorithms

end Osrm.Engine
