import Osrm.Engine.QueryHeap
import Mathlib.Algebra.Group.Nat.Basic

/-!
# Many-to-many matrix search

`ManyToManyRouting::operator()` (`many_to_many.hpp:49-158`) runs one backward search per target
phantom, appending a bucket `(column, distance)` at every node it settles, and then one forward
search per source phantom, combining each settled key with the buckets found at that node into
the result table. Both searches relax with `RelaxOutgoingEdges` and stall on demand with
`StallAtNode` (lines 160-279).

The loop `while (!query_heap.Empty())` is modelled with fuel `GetNumberOfNodes() + 2`;
`Osrm.Engine.RoutingAlgorithms.SearchRun` shows that the heap is empty before the fuel runs out.
A read `phantom_nodes[index]` past the end reads the default `PhantomNode()`, whose segments are
both disabled. The cell `row_idx * number_of_targets + column_idx` is computed in `unsigned`
arithmetic (`cellIndex`), so it wraps once the table has more than `2 ^ 32` cells.

`settleNext` is the part of an iteration both directions share; `forwardRoutingStep_eq` and
`backwardRoutingStep_eq` split each step into it and its side effect, and `forwardSweep_eq` and
`backwardSweep_eq` lift that to whole sweeps.
-/

namespace Osrm.Engine.RoutingAlgorithms

/-- `NodeBucket`: the target column and the backward key of a settled node. -/
structure NodeBucket where
  targetId : Nat
  distance : Int
  deriving DecidableEq, Repr

/-- `SearchSpaceWithBuckets`, read with `find` and `operator[]`: an absent node has no buckets. -/
def SearchSpaceWithBuckets := Nat → List NodeBucket

/-- The empty bucket map a request starts from. -/
def SearchSpaceWithBuckets.empty : SearchSpaceWithBuckets := fun _ => []

/-- `search_space_with_buckets[node].emplace_back(bucket)`. -/
def SearchSpaceWithBuckets.emplaceBack (buckets : SearchSpaceWithBuckets) (node : Nat)
    (bucket : NodeBucket) : SearchSpaceWithBuckets :=
  fun other => if other = node then buckets other ++ [bucket] else buckets other

variable (g : QueryGraph)

/-- One edge of the loop in `RelaxOutgoingEdges<forward_direction>`. -/
def relaxEdge (forwardDirection : Bool) (distance : Int) (heap : QueryHeap) (edge : QueryEdge) :
    QueryHeap :=
  if edge.directionFlag forwardDirection then
    let toDistance := distance + edge.distance
    if !heap.wasInserted edge.target then heap.insert edge.target toDistance
    else if toDistance < heap.getKey edge.target then heap.decreaseKey edge.target toDistance
    else heap
  else heap

/-- `RelaxOutgoingEdges<forward_direction>(node, distance, query_heap)`. -/
def relaxOutgoingEdges (forwardDirection : Bool) (node : Nat) (distance : Int)
    (heap : QueryHeap) : QueryHeap :=
  (g.adjacentEdges node).foldl (relaxEdge forwardDirection distance) heap

/-- `StallAtNode<forward_direction>(node, distance, query_heap)`: some edge read in the opposite
direction reaches an inserted node whose key plus the edge weight is below `distance`. -/
def stallAtNode (forwardDirection : Bool) (node : Nat) (distance : Int) (heap : QueryHeap) :
    Bool :=
  (g.adjacentEdges node).any fun edge =>
    edge.directionFlag (!forwardDirection) && heap.wasInserted edge.target &&
      decide (heap.getKey edge.target + edge.distance < distance)

/-- `row_idx * number_of_targets + column_idx`, all three `unsigned`. -/
def cellIndex (rowIdx numberOfTargets columnIdx : Nat) : Nat :=
  (rowIdx * numberOfTargets + columnIdx) % 2 ^ 32

/-- One bucket of the loop in `ForwardRoutingStep`, with the loop-weight rule for a negative sum. -/
def relaxBucket (rowIdx numberOfTargets node : Nat) (sourceDistance : Int)
    (resultTable : List Int) (bucket : NodeBucket) : List Int :=
  let index := cellIndex rowIdx numberOfTargets bucket.targetId
  let currentDistance := resultTable.getD index 0
  let newDistance := sourceDistance + bucket.distance
  if newDistance < 0 then
    let loopWeight := g.getLoopWeight node
    let newDistanceWithLoop := newDistance + loopWeight
    if loopWeight ≠ invalidEdgeWeight ∧ newDistanceWithLoop ≥ 0 then
      resultTable.set index (min currentDistance newDistanceWithLoop)
    else resultTable
  else if newDistance < currentDistance then resultTable.set index newDistance
  else resultTable

/-- `ForwardRoutingStep(row_idx, number_of_targets, query_heap, buckets, result_table)`. -/
def forwardRoutingStep (rowIdx numberOfTargets : Nat) (buckets : SearchSpaceWithBuckets)
    (heap : QueryHeap) (resultTable : List Int) : QueryHeap × List Int :=
  let node := heap.deleteMin.1
  let heap := heap.deleteMin.2
  let sourceDistance := heap.getKey node
  let resultTable :=
    (buckets node).foldl (relaxBucket g rowIdx numberOfTargets node sourceDistance) resultTable
  if stallAtNode g true node sourceDistance heap then (heap, resultTable)
  else (relaxOutgoingEdges g true node sourceDistance heap, resultTable)

/-- `BackwardRoutingStep(column_idx, query_heap, buckets)`. -/
def backwardRoutingStep (columnIdx : Nat) (heap : QueryHeap) (buckets : SearchSpaceWithBuckets) :
    QueryHeap × SearchSpaceWithBuckets :=
  let node := heap.deleteMin.1
  let heap := heap.deleteMin.2
  let targetDistance := heap.getKey node
  let buckets := buckets.emplaceBack node ⟨columnIdx, targetDistance⟩
  if stallAtNode g false node targetDistance heap then (heap, buckets)
  else (relaxOutgoingEdges g false node targetDistance heap, buckets)

/-- `while (!query_heap.Empty()) ForwardRoutingStep(...)`, with fuel. -/
def forwardSweep (rowIdx numberOfTargets : Nat) (buckets : SearchSpaceWithBuckets) :
    Nat → QueryHeap → List Int → QueryHeap × List Int
  | 0, heap, resultTable => (heap, resultTable)
  | fuel + 1, heap, resultTable =>
    if heap.empty then (heap, resultTable)
    else
      let step := forwardRoutingStep g rowIdx numberOfTargets buckets heap resultTable
      forwardSweep rowIdx numberOfTargets buckets fuel step.1 step.2

/-- `while (!query_heap.Empty()) BackwardRoutingStep(...)`, with fuel. -/
def backwardSweep (columnIdx : Nat) :
    Nat → QueryHeap → SearchSpaceWithBuckets → QueryHeap × SearchSpaceWithBuckets
  | 0, heap, buckets => (heap, buckets)
  | fuel + 1, heap, buckets =>
    if heap.empty then (heap, buckets)
    else
      let step := backwardRoutingStep g columnIdx heap buckets
      backwardSweep columnIdx fuel step.1 step.2

/-- `query_heap.Clear()` followed by the insertion of the phantom's enabled segments with the
given keys, forward segment first. -/
def phantomSeeds (phantom : PhantomNode) (forwardKey reverseKey : Int) : QueryHeap :=
  let heap := QueryHeap.clear
  let heap :=
    if phantom.forwardSegmentId.enabled then heap.insert phantom.forwardSegmentId.id forwardKey
    else heap
  if phantom.reverseSegmentId.enabled then heap.insert phantom.reverseSegmentId.id reverseKey
  else heap

/-- The heap `search_target_phantom` starts from: keys are the weights plus offsets. -/
def targetSeeds (phantom : PhantomNode) : QueryHeap :=
  phantomSeeds phantom phantom.getForwardWeightPlusOffset phantom.getReverseWeightPlusOffset

/-- The heap `search_source_phantom` starts from: keys are the negated weights plus offsets. -/
def sourceSeeds (phantom : PhantomNode) : QueryHeap :=
  phantomSeeds phantom (-phantom.getForwardWeightPlusOffset) (-phantom.getReverseWeightPlusOffset)

/-- The fuel of every sweep. -/
def sweepFuel : Nat := g.getNumberOfNodes + 2

/-- The lambda `search_target_phantom`, for column `columnIdx`. -/
def searchTargetPhantom (columnIdx : Nat) (phantom : PhantomNode)
    (buckets : SearchSpaceWithBuckets) : SearchSpaceWithBuckets :=
  (backwardSweep g columnIdx (sweepFuel g) (targetSeeds phantom) buckets).2

/-- The lambda `search_source_phantom`, for row `rowIdx`. -/
def searchSourcePhantom (rowIdx numberOfTargets : Nat) (buckets : SearchSpaceWithBuckets)
    (phantom : PhantomNode) (resultTable : List Int) : List Int :=
  (forwardSweep g rowIdx numberOfTargets buckets (sweepFuel g) (sourceSeeds phantom)
    resultTable).2

/-- The target loop, `column_idx` counting up from `columnIdx`. -/
def searchTargets : Nat → List PhantomNode → SearchSpaceWithBuckets → SearchSpaceWithBuckets
  | _, [], buckets => buckets
  | columnIdx, phantom :: rest, buckets =>
    searchTargets (columnIdx + 1) rest (searchTargetPhantom g columnIdx phantom buckets)

/-- The source loop, `row_idx` counting up from `rowIdx`. -/
def searchSources (numberOfTargets : Nat) (buckets : SearchSpaceWithBuckets) :
    Nat → List PhantomNode → List Int → List Int
  | _, [], resultTable => resultTable
  | rowIdx, phantom :: rest, resultTable =>
    searchSources numberOfTargets buckets (rowIdx + 1) rest
      (searchSourcePhantom g rowIdx numberOfTargets buckets phantom resultTable)

/-- The phantoms an index list selects; an empty list selects them all. -/
def selectPhantoms (phantomNodes : List PhantomNode) (indices : List Nat) : List PhantomNode :=
  if indices.isEmpty then phantomNodes else indices.map (phantomNodes.getD · default)

/-- `ManyToManyRouting::operator()(phantom_nodes, source_indices, target_indices)`. -/
def manyToManyRouting (phantomNodes : List PhantomNode) (sourceIndices targetIndices : List Nat) :
    List Int :=
  let sources := selectPhantoms phantomNodes sourceIndices
  let targets := selectPhantoms phantomNodes targetIndices
  let resultTable := List.replicate (sources.length * targets.length) invalidEdgeWeight
  let buckets := searchTargets g 0 targets SearchSpaceWithBuckets.empty
  searchSources g targets.length buckets 0 sources resultTable

/-! ### Sweeps as folds over the settled nodes -/

/-- The part of an iteration both directions share: `DeleteMin`, `GetKey`, then `StallAtNode`
and, unless it stalls, `RelaxOutgoingEdges`. It returns the settled node, its key and the heap. -/
def settleNext (forwardDirection : Bool) (heap : QueryHeap) : Nat × Int × QueryHeap :=
  let node := heap.deleteMin.1
  let removed := heap.deleteMin.2
  let distance := removed.getKey node
  (node, distance,
    if stallAtNode g forwardDirection node distance removed then removed
    else relaxOutgoingEdges g forwardDirection node distance removed)

/-- The nodes a sweep settles, in order and with their keys, and the heap it ends with. -/
def settleRun (forwardDirection : Bool) : Nat → QueryHeap → List (Nat × Int) × QueryHeap
  | 0, heap => ([], heap)
  | fuel + 1, heap =>
    if heap.empty then ([], heap)
    else
      let step := settleNext g forwardDirection heap
      let rest := settleRun forwardDirection fuel step.2.2
      ((step.1, step.2.1) :: rest.1, rest.2)

/-- The bucket loop of `ForwardRoutingStep` for one settled node and its key. -/
def relaxNodeBuckets (rowIdx numberOfTargets : Nat) (buckets : SearchSpaceWithBuckets)
    (resultTable : List Int) (settled : Nat × Int) : List Int :=
  (buckets settled.1).foldl (relaxBucket g rowIdx numberOfTargets settled.1 settled.2) resultTable

/-- The effect of one bucket on its cell, as a function of the cell's current value. -/
def cellUpdate (node : Nat) (sourceDistance current targetDistance : Int) : Int :=
  let newDistance := sourceDistance + targetDistance
  if newDistance < 0 then
    if g.getLoopWeight node ≠ invalidEdgeWeight ∧ newDistance + g.getLoopWeight node ≥ 0 then
      min current (newDistance + g.getLoopWeight node)
    else current
  else if newDistance < current then newDistance else current

/-- A bucket rewrites its cell with `cellUpdate` and leaves every other cell alone. -/
theorem relaxBucket_eq_set (rowIdx numberOfTargets node : Nat) (sourceDistance : Int)
    (resultTable : List Int) (bucket : NodeBucket) :
    relaxBucket g rowIdx numberOfTargets node sourceDistance resultTable bucket =
      resultTable.set (cellIndex rowIdx numberOfTargets bucket.targetId)
        (cellUpdate g node sourceDistance
          (resultTable.getD (cellIndex rowIdx numberOfTargets bucket.targetId) 0)
          bucket.distance) := by
  have unchanged : ∀ index, resultTable.set index (resultTable.getD index 0) = resultTable := by
    intro index
    apply List.ext_getElem?
    intro other
    rw [List.getElem?_set]
    split_ifs with same inside <;> simp_all
  unfold relaxBucket cellUpdate
  dsimp only
  split_ifs <;> simp_all

theorem forwardRoutingStep_eq (rowIdx numberOfTargets : Nat) (buckets : SearchSpaceWithBuckets)
    (heap : QueryHeap) (resultTable : List Int) :
    forwardRoutingStep g rowIdx numberOfTargets buckets heap resultTable =
      ((settleNext g true heap).2.2,
        relaxNodeBuckets g rowIdx numberOfTargets buckets resultTable
          ((settleNext g true heap).1, (settleNext g true heap).2.1)) := by
  unfold forwardRoutingStep settleNext relaxNodeBuckets
  dsimp only
  split <;> rfl

theorem backwardRoutingStep_eq (columnIdx : Nat) (heap : QueryHeap)
    (buckets : SearchSpaceWithBuckets) :
    backwardRoutingStep g columnIdx heap buckets =
      ((settleNext g false heap).2.2,
        buckets.emplaceBack (settleNext g false heap).1 ⟨columnIdx, (settleNext g false heap).2.1⟩) := by
  unfold backwardRoutingStep settleNext
  dsimp only
  split <;> rfl

/-- A forward sweep is its settle run followed by the bucket loop of every settled node. -/
theorem forwardSweep_eq (rowIdx numberOfTargets : Nat) (buckets : SearchSpaceWithBuckets)
    (fuel : Nat) (heap : QueryHeap) (resultTable : List Int) :
    forwardSweep g rowIdx numberOfTargets buckets fuel heap resultTable =
      ((settleRun g true fuel heap).2,
        (settleRun g true fuel heap).1.foldl
          (relaxNodeBuckets g rowIdx numberOfTargets buckets) resultTable) := by
  induction fuel generalizing heap resultTable with
  | zero => rfl
  | succ fuel ih =>
    unfold forwardSweep settleRun
    split
    · rfl
    · simp only [forwardRoutingStep_eq, ih, List.foldl_cons]

/-- A backward sweep is its settle run followed by one bucket per settled node. -/
theorem backwardSweep_eq (columnIdx fuel : Nat) (heap : QueryHeap)
    (buckets : SearchSpaceWithBuckets) :
    backwardSweep g columnIdx fuel heap buckets =
      ((settleRun g false fuel heap).2,
        (settleRun g false fuel heap).1.foldl
          (fun buckets settled => buckets.emplaceBack settled.1 ⟨columnIdx, settled.2⟩) buckets) := by
  induction fuel generalizing heap buckets with
  | zero => rfl
  | succ fuel ih =>
    unfold backwardSweep settleRun
    split
    · rfl
    · simp only [backwardRoutingStep_eq, ih, List.foldl_cons]

end Osrm.Engine.RoutingAlgorithms
