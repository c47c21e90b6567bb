import Osrm.Extractor.PrepareNodes
import Mathlib.Data.Rat.Floor
import Mathlib.Data.List.Perm.Basic

/-!
# Renumbering the edges in `PrepareEdges`

Before it removes parallel edges, `PrepareEdges` (`extraction_containers.cpp:264-431`) gives every
edge the internal ids of its two OSM nodes in two passes. It sorts the edges by OSM source and
walks them beside the nodes, sorted by OSM id: an edge whose source is a node gets that node's
internal id and coordinate, a loop loses both ends, and an edge whose source is no node loses its
source. It then sorts the edges by OSM target and walks them again: an edge that kept its source
and whose target is a node gets its weight and that node's internal id, and is turned to run from
the smaller id to the larger; an edge whose target is no node loses its target.

An edge keeps both ends exactly when both its OSM nodes are nodes and differ, and then its ends
are their internal ids, in increasing order, with the direction flags exchanged when the order was
reversed (`renumberEdges_renumbered`).

`util::coordinate_calculation::greatCircleDistance` and the profile's `ProcessSegment` are the
parameters `greatCircleDistance` and `processSegment`; the two `stxxl::sort`s are the parameters
`sortByStart` and `sortByTarget`. Dereferencing `find`'s `end()` is undefined and returns
`nodeIdNotFound`. The `double` weights are rationals: a speed of `0` divides by zero, where the
code's value is not a number and the rationals read `0`, and `static_cast<int>` of a weight beyond
`int` is undefined, where the model keeps the integer.
-/

namespace Osrm.Extractor

/-- `util::Coordinate`: fixed-point longitude and latitude. -/
structure Coordinate where
  lon : Int
  lat : Int
  deriving DecidableEq, Repr

/-- `InternalExtractorEdge::WeightType`. -/
inductive WeightType
  | invalid
  | speed
  | edgeDuration
  | wayDuration
  deriving DecidableEq, Repr

/-- `InternalExtractorEdge::WeightData`. -/
structure WeightData where
  type : WeightType
  duration : ℚ
  speed : ℚ
  deriving DecidableEq, Repr

/-- `NodeBasedEdgeWithOSM`, the `result` of an `InternalExtractorEdge`: a `NodeBasedEdge` with the
OSM ids of its ends. -/
structure NodeBasedEdgeWithOSM extends NodeBasedEdge where
  osmSourceId : Nat
  osmTargetId : Nat
  deriving DecidableEq, Repr

/-- The fields of `InternalExtractorEdge` that `PrepareEdges` reads or writes. -/
structure InternalExtractorEdge where
  result : NodeBasedEdgeWithOSM
  sourceCoordinate : Coordinate
  weightData : WeightData
  deriving DecidableEq, Repr

/-- `id_iter->second` with `id_iter == external_to_internal_node_id_map.end()`. -/
inductive RenumberError
  | nodeIdNotFound (nodeId : Nat)
  deriving DecidableEq, Repr

/-- The weight lambda of "Computing edge weights"; an `INVALID` type only builds an exception and
falls through to `-1`. -/
def segmentWeight (distance : ℚ) (data : WeightData) : ℚ :=
  match data.type with
  | .edgeDuration | .wayDuration => data.duration * 10
  | .speed => distance * 10 / (data.speed / (36 / 10))
  | .invalid => -1

/-- "orient edges consistently: source id < target id": the ends and the direction flags of an edge
whose source id is the larger are exchanged. -/
def orient (result : NodeBasedEdgeWithOSM) : NodeBasedEdgeWithOSM :=
  if result.source > result.target then
    { result with
      source := result.target
      target := result.source
      forward := result.backward
      backward := result.forward }
  else result

section Passes

variable (specialNodeId specialOsmNodeId : Nat) (nodeIdMap : Nat → Option Nat)
  (greatCircleDistance : Coordinate → Coordinate → ℚ)
  (processSegment : Coordinate → ExternalMemoryNode → ℚ → WeightData → WeightData)

/-- `markSourcesInvalid`. -/
def markSourcesInvalid (edge : InternalExtractorEdge) : InternalExtractorEdge :=
  { edge with result.source := specialNodeId, result.osmSourceId := specialOsmNodeId }

/-- The loop "Setting start coords", then `markSourcesInvalid` on the edges it did not reach. -/
def setStartCoords : List InternalExtractorEdge → List ExternalMemoryNode →
    Except RenumberError (List InternalExtractorEdge)
  | edge :: edges, node :: nodes =>
    if edge.result.osmSourceId < node.nodeId then
      ({ edge with result.source := specialNodeId } :: ·) <$> setStartCoords edges (node :: nodes)
    else if edge.result.osmSourceId > node.nodeId then setStartCoords (edge :: edges) nodes
    else if edge.result.osmSourceId = edge.result.osmTargetId then
      ({ edge with result.source := specialNodeId, result.target := specialNodeId } :: ·) <$>
        setStartCoords edges (node :: nodes)
    else match nodeIdMap node.nodeId with
      | none => .error (.nodeIdNotFound node.nodeId)
      | some source =>
        ({ edge with result.source := source, sourceCoordinate := ⟨node.lon, node.lat⟩ } :: ·) <$>
          setStartCoords edges (node :: nodes)
  | edges, _ => pure (edges.map (markSourcesInvalid specialNodeId specialOsmNodeId))
termination_by edges nodes => edges.length + nodes.length

/-- One edge that meets its target node in "Computing edge weights": `ProcessSegment`, the weight
`std::max(1, static_cast<int>(std::floor(weight + .5)))`, the target id, and the swap that makes
the edge run from the smaller id to the larger. -/
def weighEdge (edge : InternalExtractorEdge) (node : ExternalMemoryNode) (target : Nat) :
    InternalExtractorEdge :=
  let distance := greatCircleDistance edge.sourceCoordinate ⟨node.lon, node.lat⟩
  let weightData := processSegment edge.sourceCoordinate node distance edge.weightData
  let result := { edge.result with
    weight := max 1 (Int.floor (segmentWeight distance weightData + 1 / 2)), target := target }
  { edge with result := orient result, weightData := weightData }

/-- `markTargetsInvalid`. -/
def markTargetsInvalid (edge : InternalExtractorEdge) : InternalExtractorEdge :=
  { edge with result.target := specialNodeId }

/-- The loop "Computing edge weights", then `markTargetsInvalid` on the edges it did not reach. -/
def computeEdgeWeights : List InternalExtractorEdge → List ExternalMemoryNode →
    Except RenumberError (List InternalExtractorEdge)
  | edge :: edges, node :: nodes =>
    if edge.result.source = specialNodeId then
      (edge :: ·) <$> computeEdgeWeights edges (node :: nodes)
    else if edge.result.osmTargetId < node.nodeId then
      ({ edge with result.target := specialNodeId } :: ·) <$> computeEdgeWeights edges (node :: nodes)
    else if edge.result.osmTargetId > node.nodeId then computeEdgeWeights (edge :: edges) nodes
    else match nodeIdMap node.nodeId with
      | none => .error (.nodeIdNotFound node.nodeId)
      | some target =>
        (weighEdge greatCircleDistance processSegment edge node target :: ·) <$>
          computeEdgeWeights edges (node :: nodes)
  | edges, _ => pure (edges.map (markTargetsInvalid specialNodeId))
termination_by edges nodes => edges.length + nodes.length

/-- `PrepareEdges` up to the sort by `CmpEdgeByInternalSourceTargetAndName`: the two passes, each
after its sort. -/
def renumberEdges (sortByStart sortByTarget : List InternalExtractorEdge → List InternalExtractorEdge)
    (allNodesList : List ExternalMemoryNode) (allEdgesList : List InternalExtractorEdge) :
    Except RenumberError (List InternalExtractorEdge) := do
  let started ← setStartCoords specialNodeId specialOsmNodeId nodeIdMap (sortByStart allEdgesList)
    allNodesList
  computeEdgeWeights specialNodeId nodeIdMap greatCircleDistance processSegment
    (sortByTarget started) allNodesList

/-! ### The two passes -/

/-- What "Setting start coords" makes of one edge, against the OSM ids `nodeIds` of the nodes: the
source becomes the internal id of the OSM source if that is a node and the edge is no loop, and
`SPECIAL_NODEID` otherwise; the OSM target and the direction flags stay. -/
def Started (nodeIds : List Nat) (edge started : InternalExtractorEdge) : Prop :=
  started.result.osmTargetId = edge.result.osmTargetId ∧
    started.result.forward = edge.result.forward ∧ started.result.backward = edge.result.backward ∧
    if edge.result.osmSourceId ∈ nodeIds ∧ edge.result.osmSourceId ≠ edge.result.osmTargetId then
      nodeIdMap edge.result.osmSourceId = some started.result.source
    else started.result.source = specialNodeId

/-- What "Computing edge weights" makes of one edge, against the OSM ids `nodeIds` of the nodes: an
edge without a source stays so; an edge whose OSM target is a node runs between its source and the
internal id of that node, from the smaller to the larger, with its flags exchanged if it was
turned; any other edge keeps its source and loses its target. -/
def Weighed (nodeIds : List Nat) (edge weighed : InternalExtractorEdge) : Prop :=
  if edge.result.source = specialNodeId then weighed.result.source = specialNodeId
  else if edge.result.osmTargetId ∈ nodeIds then
    ∃ target, nodeIdMap edge.result.osmTargetId = some target ∧
      weighed.result.source = min edge.result.source target ∧
      weighed.result.target = max edge.result.source target ∧
      (weighed.result.forward, weighed.result.backward) =
        if edge.result.source > target then (edge.result.backward, edge.result.forward)
        else (edge.result.forward, edge.result.backward)
  else weighed.result.source = edge.result.source ∧ weighed.result.target = specialNodeId

theorem weighEdge_result (edge : InternalExtractorEdge) (node : ExternalMemoryNode) (target : Nat) :
    (weighEdge greatCircleDistance processSegment edge node target).result.source =
        min edge.result.source target ∧
      (weighEdge greatCircleDistance processSegment edge node target).result.target =
        max edge.result.source target ∧
      ((weighEdge greatCircleDistance processSegment edge node target).result.forward,
          (weighEdge greatCircleDistance processSegment edge node target).result.backward) =
        if edge.result.source > target then (edge.result.backward, edge.result.forward)
        else (edge.result.forward, edge.result.backward) := by
  dsimp only [weighEdge, orient]
  split_ifs with turned
  · exact ⟨(min_eq_right turned.le).symm, (max_eq_left turned.le).symm, rfl⟩
  · exact ⟨(min_eq_left (not_lt.mp turned)).symm, (max_eq_right (not_lt.mp turned)).symm, rfl⟩

end Passes

section Walk

variable {key : InternalExtractorEdge → Nat} {nodeIds : List Nat} {edge : InternalExtractorEdge}
  {edges : List InternalExtractorEdge} {node : ExternalMemoryNode} {nodes : List ExternalMemoryNode}

/-- The hypothesis both walks share: on the edges still to walk, `key` names a node of `nodeIds`
exactly when it names one of the nodes still to walk. -/
def Covers (key : InternalExtractorEdge → Nat) (nodeIds : List Nat)
    (edges : List InternalExtractorEdge) (nodes : List ExternalMemoryNode) : Prop :=
  ∀ other ∈ edges, key other ∈ nodeIds ↔ key other ∈ nodes.map (·.nodeId)

theorem Covers.of_cons (covers : Covers key nodeIds (edge :: edges) nodes) :
    Covers key nodeIds edges nodes :=
  fun other member => covers other (List.mem_cons_of_mem _ member)

/-- Passing a node below the least key keeps the coverage of sorted edges. -/
theorem Covers.skip (sorted : (edge :: edges).Sorted fun a b => key a ≤ key b)
    (above : node.nodeId < key edge) (covers : Covers key nodeIds (edge :: edges) (node :: nodes)) :
    Covers key nodeIds (edge :: edges) nodes := by
  intro other member
  have below : node.nodeId < key other := by
    rcases List.mem_cons.mp member with rfl | later
    · exact above
    · exact lt_of_lt_of_le above (List.rel_of_sorted_cons sorted other later)
  rw [covers other member, List.map_cons, List.mem_cons]
  exact ⟨fun listed => listed.resolve_left (ne_of_gt below), Or.inr⟩

/-- A key below the least of the sorted nodes names none of them. -/
theorem Covers.absent (nodesSorted : (node :: nodes).Sorted fun a b => a.nodeId ≤ b.nodeId)
    (covers : Covers key nodeIds (edge :: edges) (node :: nodes)) (below : key edge < node.nodeId) :
    key edge ∉ nodeIds := fun listed => by
  obtain ⟨other, member, same⟩ :=
    List.mem_map.mp ((covers edge (List.mem_cons_self _ _)).mp listed)
  exact absurd (lowest_of_sorted nodesSorted other member) (by omega)

/-- The key the walk meets at a node equal to it names a node. -/
theorem Covers.present (covers : Covers key nodeIds (edge :: edges) (node :: nodes))
    (same : node.nodeId = key edge) : key edge ∈ nodeIds :=
  (covers edge (List.mem_cons_self _ _)).mpr (List.mem_cons.mpr (.inl same.symm))

end Walk

section Passes

variable (specialNodeId specialOsmNodeId : Nat) (nodeIdMap : Nat → Option Nat)
  (greatCircleDistance : Coordinate → Coordinate → ℚ)
  (processSegment : Coordinate → ExternalMemoryNode → ℚ → WeightData → WeightData)
  (nodeIds : List Nat)

/-- On edges sorted by OSM source and nodes sorted by OSM id, where every source that is a node is
in the map, "Setting start coords" succeeds and starts every edge. -/
theorem setStartCoords_started {edges : List InternalExtractorEdge} {nodes : List ExternalMemoryNode}
    (edgesSorted : edges.Sorted fun a b => a.result.osmSourceId ≤ b.result.osmSourceId)
    (nodesSorted : nodes.Sorted fun a b => a.nodeId ≤ b.nodeId)
    (covers : Covers (·.result.osmSourceId) nodeIds edges nodes)
    (mapped : ∀ edge ∈ edges, edge.result.osmSourceId ∈ nodeIds →
      (nodeIdMap edge.result.osmSourceId).isSome) :
    ∃ started, setStartCoords specialNodeId specialOsmNodeId nodeIdMap edges nodes = .ok started ∧
      List.Forall₂ (Started specialNodeId nodeIdMap nodeIds) edges started := by
  induction edges, nodes using setStartCoords.induct specialNodeId specialOsmNodeId nodeIdMap with
  | case1 edge edges node nodes below ih =>
    obtain ⟨started, run, walked⟩ := ih edgesSorted.of_cons nodesSorted covers.of_cons
      fun other member => mapped other (List.mem_cons_of_mem _ member)
    rw [setStartCoords, if_pos below, run]
    refine ⟨_, rfl, .cons ⟨rfl, rfl, rfl, ?_⟩ walked⟩
    rw [if_neg fun both => covers.absent nodesSorted below both.1]
  | case2 edge edges node nodes not_below above ih =>
    obtain ⟨started, run, walked⟩ := ih edgesSorted nodesSorted.of_cons
      (covers.skip edgesSorted above) mapped
    exact ⟨started, by rw [setStartCoords, if_neg not_below, if_pos above, run], walked⟩
  | case3 edge edges node nodes not_below not_above loop ih =>
    obtain ⟨started, run, walked⟩ := ih edgesSorted.of_cons nodesSorted covers.of_cons
      fun other member => mapped other (List.mem_cons_of_mem _ member)
    rw [setStartCoords, if_neg not_below, if_neg not_above, if_pos loop, run]
    refine ⟨_, rfl, .cons ⟨rfl, rfl, rfl, ?_⟩ walked⟩
    rw [if_neg fun both => both.2 loop]
  | case4 edge edges node nodes not_below not_above _ missing =>
    have same : node.nodeId = edge.result.osmSourceId := by omega
    have found := mapped edge (List.mem_cons_self _ _) (covers.present same)
    rw [← same, missing] at found
    cases found
  | case5 edge edges node nodes not_below not_above not_loop source found ih =>
    have same : node.nodeId = edge.result.osmSourceId := by omega
    obtain ⟨started, run, walked⟩ := ih edgesSorted.of_cons nodesSorted covers.of_cons
      fun other member => mapped other (List.mem_cons_of_mem _ member)
    rw [setStartCoords, if_neg not_below, if_neg not_above, if_neg not_loop, found]
    rw [run]
    refine ⟨_, rfl, .cons ⟨rfl, rfl, rfl, ?_⟩ walked⟩
    rw [if_pos ⟨covers.present same, not_loop⟩, ← same, found]
  | case6 edges nodes done =>
    have marked : setStartCoords specialNodeId specialOsmNodeId nodeIdMap edges nodes =
        pure (edges.map (markSourcesInvalid specialNodeId specialOsmNodeId)) := by
      cases edges with
      | nil => cases nodes <;> simp [setStartCoords]
      | cons edge edges =>
        cases nodes with
        | nil => simp [setStartCoords]
        | cons node nodes => exact absurd rfl (done edge edges node nodes rfl)
    refine ⟨_, marked, List.forall₂_map_right_iff.mpr
      (List.forall₂_same.mpr fun edge member => ⟨rfl, rfl, rfl, ?_⟩)⟩
    cases nodes with
    | nil =>
      rw [if_neg fun both => by simpa using (covers edge member).mp both.1]
      rfl
    | cons node nodes =>
      cases edges with
      | nil => cases member
      | cons first edges => exact absurd rfl (done first edges node nodes rfl)

/-- On edges sorted by OSM target and nodes sorted by OSM id, where every target that is a node is
in the map, "Computing edge weights" succeeds and weighs every edge. -/
theorem computeEdgeWeights_weighed {edges : List InternalExtractorEdge}
    {nodes : List ExternalMemoryNode}
    (edgesSorted : edges.Sorted fun a b => a.result.osmTargetId ≤ b.result.osmTargetId)
    (nodesSorted : nodes.Sorted fun a b => a.nodeId ≤ b.nodeId)
    (covers : Covers (·.result.osmTargetId) nodeIds edges nodes)
    (mapped : ∀ edge ∈ edges, edge.result.osmTargetId ∈ nodeIds →
      (nodeIdMap edge.result.osmTargetId).isSome) :
    ∃ weighed, computeEdgeWeights specialNodeId nodeIdMap greatCircleDistance processSegment edges
        nodes = .ok weighed ∧
      List.Forall₂ (Weighed specialNodeId nodeIdMap nodeIds) edges weighed := by
  induction edges, nodes using
    computeEdgeWeights.induct specialNodeId nodeIdMap greatCircleDistance processSegment with
  | case1 edge edges node nodes special ih =>
    obtain ⟨weighed, run, walked⟩ := ih edgesSorted.of_cons nodesSorted covers.of_cons
      fun other member => mapped other (List.mem_cons_of_mem _ member)
    rw [computeEdgeWeights, if_pos special, run]
    exact ⟨_, rfl, .cons (by rw [Weighed, if_pos special]; exact special) walked⟩
  | case2 edge edges node nodes not_special below ih =>
    obtain ⟨weighed, run, walked⟩ := ih edgesSorted.of_cons nodesSorted covers.of_cons
      fun other member => mapped other (List.mem_cons_of_mem _ member)
    rw [computeEdgeWeights, if_neg not_special, if_pos below, run]
    refine ⟨_, rfl, .cons ?_ walked⟩
    rw [Weighed, if_neg not_special, if_neg (covers.absent nodesSorted below)]
    exact ⟨rfl, rfl⟩
  | case3 edge edges node nodes not_special not_below above ih =>
    obtain ⟨weighed, run, walked⟩ := ih edgesSorted nodesSorted.of_cons
      (covers.skip edgesSorted above) mapped
    exact ⟨weighed, by rw [computeEdgeWeights, if_neg not_special, if_neg not_below, if_pos above,
      run], walked⟩
  | case4 edge edges node nodes _ not_below not_above missing =>
    have same : node.nodeId = edge.result.osmTargetId := by omega
    have found := mapped edge (List.mem_cons_self _ _) (covers.present same)
    rw [← same, missing] at found
    cases found
  | case5 edge edges node nodes not_special not_below not_above target found ih =>
    have same : node.nodeId = edge.result.osmTargetId := by omega
    obtain ⟨weighed, run, walked⟩ := ih edgesSorted.of_cons nodesSorted covers.of_cons
      fun other member => mapped other (List.mem_cons_of_mem _ member)
    rw [computeEdgeWeights, if_neg not_special, if_neg not_below, if_neg not_above, found]
    rw [run]
    refine ⟨_, rfl, .cons ?_ walked⟩
    rw [Weighed, if_neg not_special, if_pos (covers.present same)]
    exact ⟨target, same ▸ found, weighEdge_result greatCircleDistance processSegment edge node target⟩
  | case6 edges nodes done =>
    have marked : computeEdgeWeights specialNodeId nodeIdMap greatCircleDistance processSegment
        edges nodes = pure (edges.map (markTargetsInvalid specialNodeId)) := by
      cases edges with
      | nil => cases nodes <;> simp [computeEdgeWeights]
      | cons edge edges =>
        cases nodes with
        | nil => simp [computeEdgeWeights]
        | cons node nodes => exact absurd rfl (done edge edges node nodes rfl)
    refine ⟨_, marked, List.forall₂_map_right_iff.mpr
      (List.forall₂_same.mpr fun edge member => ?_)⟩
    cases nodes with
    | nil =>
      rw [Weighed]
      split_ifs with special listed
      · exact special
      · simpa using (covers edge member).mp listed
      · exact ⟨rfl, rfl⟩
    | cons node nodes =>
      cases edges with
      | nil => cases member
      | cons first edges => exact absurd rfl (done first edges node nodes rfl)

end Passes

section Relations

variable {α β γ : Type} {R : α → β → Prop} {S : β → γ → Prop}

/-- Two relations that hold position by position compose position by position. -/
theorem forall₂_comp {T : α → γ → Prop} {as : List α} {bs : List β} {cs : List γ}
    (first : List.Forall₂ R as bs) (second : List.Forall₂ S bs cs)
    (compose : ∀ a b c, R a b → S b c → T a c) : List.Forall₂ T as cs := by
  induction first generalizing cs with
  | nil => cases second; exact .nil
  | cons head _ ih =>
    cases second with
    | cons head' rest => exact .cons (compose _ _ _ head head') (ih rest)

theorem exists_of_forall₂_mem {as : List α} {bs : List β} (related : List.Forall₂ R as bs) {b : β}
    (member : b ∈ bs) : ∃ a ∈ as, R a b := by
  induction related with
  | nil => cases member
  | cons first _ ih =>
    rcases List.mem_cons.mp member with rfl | later
    · exact ⟨_, List.mem_cons_self _ _, first⟩
    · obtain ⟨a, found, related⟩ := ih later
      exact ⟨a, List.mem_cons_of_mem _ found, related⟩

end Relations

section Passes

variable (specialNodeId : Nat) (nodeIdMap : Nat → Option Nat) (nodeIds : List Nat)

/-- `Renumbered nodeIds edge renumbered`: the two passes have made `renumbered` of `edge`, against
the OSM ids `nodeIds` of all nodes. It has both ends exactly when both its OSM nodes are nodes and
differ; its ends are then their internal ids, the smaller first, and its direction flags are
exchanged exactly when the OSM source has the larger id. -/
def Renumbered (edge renumbered : InternalExtractorEdge) : Prop :=
  (renumbered.result.source ≠ specialNodeId ∧ renumbered.result.target ≠ specialNodeId ↔
      edge.result.osmSourceId ∈ nodeIds ∧ edge.result.osmTargetId ∈ nodeIds ∧
        edge.result.osmSourceId ≠ edge.result.osmTargetId) ∧
    (renumbered.result.source ≠ specialNodeId → renumbered.result.target ≠ specialNodeId →
      ∃ source target, nodeIdMap edge.result.osmSourceId = some source ∧
        nodeIdMap edge.result.osmTargetId = some target ∧
        renumbered.result.source = min source target ∧
        renumbered.result.target = max source target ∧
        renumbered.result.source < renumbered.result.target ∧
        (renumbered.result.forward, renumbered.result.backward) =
          if source > target then (edge.result.backward, edge.result.forward)
          else (edge.result.forward, edge.result.backward))

/-- The two passes renumber an edge, if the map numbers no node `SPECIAL_NODEID` and no two nodes
alike. -/
theorem renumbered_of_weighed {edge started weighed : InternalExtractorEdge}
    (valid : ∀ id k, nodeIdMap id = some k → k ≠ specialNodeId)
    (injective : ∀ a b k, nodeIdMap a = some k → nodeIdMap b = some k → a = b)
    (start : Started specialNodeId nodeIdMap nodeIds edge started)
    (weigh : Weighed specialNodeId nodeIdMap nodeIds started weighed) :
    Renumbered specialNodeId nodeIdMap nodeIds edge weighed := by
  obtain ⟨sameTarget, sameForward, sameBackward, source⟩ := start
  rw [Weighed, sameTarget, sameForward, sameBackward] at weigh
  split_ifs at source with kept
  · rw [if_neg (valid _ _ source)] at weigh
    split_ifs at weigh with listed
    · obtain ⟨target, found, isMin, isMax, flags⟩ := weigh
      have differ : started.result.source ≠ target :=
        fun same => kept.2 (injective _ _ _ source (same ▸ found))
      have ends : weighed.result.source ≠ specialNodeId ∧ weighed.result.target ≠ specialNodeId := by
        have := valid _ _ source
        have := valid _ _ found
        rw [isMin, isMax]
        omega
      refine ⟨iff_of_true ends ⟨kept.1, listed, kept.2⟩,
        fun _ _ => ⟨_, target, source, found, isMin, isMax, ?_, flags⟩⟩
      rw [isMin, isMax]
      omega
    · exact ⟨iff_of_false (fun ends => ends.2 weigh.2) (fun ends => listed ends.2.1),
        fun _ invalid => absurd weigh.2 invalid⟩
  · rw [if_pos source] at weigh
    exact ⟨iff_of_false (fun ends => ends.1 weigh) (fun ends => kept ⟨ends.1, ends.2.2⟩),
      fun invalid => absurd weigh invalid⟩

end Passes

/-- `PrepareEdges` after `PrepareNodes` from the empty map, with `SPECIAL_NODEID` the largest
`NodeID`: on edges whose OSM ends are all used ids, both passes succeed, and the edges they return
are, in the order of some permutation of the input, the renumbered input edges. -/
theorem renumberEdges_renumbered (sortUsed : List Nat → List Nat)
    (sortNodes : List ExternalMemoryNode → List ExternalMemoryNode)
    (sortsUsed : ∀ ids, (sortUsed ids).Perm ids ∧ (sortUsed ids).Sorted (· ≤ ·))
    (sortsNodes : ∀ nodes, (sortNodes nodes).Perm nodes ∧
      (sortNodes nodes).Sorted fun a b => a.nodeId ≤ b.nodeId)
    (usedNodeIdList : List Nat) (allNodesList : List ExternalMemoryNode) (maxInternalNodeId : Nat)
    (prepared : NodeContainers)
    (ok : prepareNodes sortUsed sortNodes
      ⟨usedNodeIdList, allNodesList, fun _ => none, maxInternalNodeId⟩ = .ok prepared)
    (specialOsmNodeId : Nat) (greatCircleDistance : Coordinate → Coordinate → ℚ)
    (processSegment : Coordinate → ExternalMemoryNode → ℚ → WeightData → WeightData)
    (sortByStart sortByTarget : List InternalExtractorEdge → List InternalExtractorEdge)
    (sortsByStart : ∀ edges, (sortByStart edges).Perm edges ∧
      (sortByStart edges).Sorted fun a b => a.result.osmSourceId ≤ b.result.osmSourceId)
    (sortsByTarget : ∀ edges, (sortByTarget edges).Perm edges ∧
      (sortByTarget edges).Sorted fun a b => a.result.osmTargetId ≤ b.result.osmTargetId)
    (allEdgesList : List InternalExtractorEdge)
    (used : ∀ edge ∈ allEdgesList,
      edge.result.osmSourceId ∈ usedNodeIdList ∧ edge.result.osmTargetId ∈ usedNodeIdList) :
    ∃ renumbered, renumberEdges unsignedMax specialOsmNodeId prepared.externalToInternalNodeIdMap
        greatCircleDistance processSegment sortByStart sortByTarget prepared.allNodesList
        allEdgesList = .ok renumbered ∧
      ∃ original, original.Perm allEdgesList ∧
        List.Forall₂ (Renumbered unsignedMax prepared.externalToInternalNodeIdMap
          (allNodesList.map (·.nodeId))) original renumbered := by
  obtain ⟨-, small, numbered⟩ := prepareNodes_numbered sortsUsed ok
  have valid : ∀ id k, prepared.externalToInternalNodeIdMap id = some k → k ≠ unsignedMax :=
    fun id k found => by
      have inside := (List.getElem?_eq_some_iff.mp ((numbered id k).mp found)).1
      rw [List.length_map] at inside
      omega
  have injective : ∀ a b k, prepared.externalToInternalNodeIdMap a = some k →
      prepared.externalToInternalNodeIdMap b = some k → a = b := fun a b k found found' =>
    Option.some.inj (((numbered a k).mp found).symm.trans ((numbered b k).mp found'))
  have covers : ∀ key edges, Covers key (allNodesList.map (·.nodeId)) edges prepared.allNodesList :=
    fun key _ other _ => by
      rw [(prepareNodes_eq ok).1]
      exact (((sortsNodes allNodesList).1.map _).mem_iff).symm
  have nodesSorted : prepared.allNodesList.Sorted fun a b => a.nodeId ≤ b.nodeId := by
    rw [(prepareNodes_eq ok).1]
    exact (sortsNodes allNodesList).2
  have usedOf : ∀ edge ∈ sortByStart allEdgesList,
      edge.result.osmSourceId ∈ usedNodeIdList ∧ edge.result.osmTargetId ∈ usedNodeIdList :=
    fun edge member => used edge ((sortsByStart allEdgesList).1.mem_iff.mp member)
  obtain ⟨started, startRun, startedAll⟩ := setStartCoords_started unsignedMax specialOsmNodeId
    prepared.externalToInternalNodeIdMap _ (sortsByStart allEdgesList).2 nodesSorted (covers _ _)
    fun edge member present => prepareNodes_numbers_used sortsUsed sortsNodes ok
      (usedOf edge member).1 present
  obtain ⟨weighed, weighRun, weighedAll⟩ := computeEdgeWeights_weighed unsignedMax
    prepared.externalToInternalNodeIdMap greatCircleDistance processSegment _
    (sortsByTarget started).2 nodesSorted (covers _ _) fun edge member present => by
      obtain ⟨original, listed, start⟩ :=
        exists_of_forall₂_mem startedAll ((sortsByTarget started).1.mem_iff.mp member)
      rw [start.1] at present ⊢
      exact prepareNodes_numbers_used sortsUsed sortsNodes ok (usedOf original listed).2 present
  have flipped : List.Forall₂ (flip (Started unsignedMax prepared.externalToInternalNodeIdMap
      (allNodesList.map (·.nodeId)))) started (sortByStart allEdgesList) := List.Forall₂.flip startedAll
  obtain ⟨original, resorted, originalPerm⟩ :=
    List.perm_comp_forall₂ (sortsByTarget started).1 flipped
  refine ⟨weighed, by rw [renumberEdges, startRun]; exact weighRun, original,
    originalPerm.trans (sortsByStart allEdgesList).1, ?_⟩
  exact forall₂_comp resorted.flip weighedAll
    fun _ _ _ start weigh => renumbered_of_weighed _ _ _ valid injective start weigh

/-- Insertion sort on a key meets the contract of the `stxxl::sort`s. -/
theorem insertionSort_sorts {α : Type} (key : α → Nat) (items : List α) :
    (items.insertionSort fun a b => key a ≤ key b).Perm items ∧
      (items.insertionSort fun a b => key a ≤ key b).Sorted fun a b => key a ≤ key b := by
  have : IsTotal α fun a b => key a ≤ key b := ⟨fun a b => le_total (key a) (key b)⟩
  have : IsTrans α fun a b => key a ≤ key b := ⟨fun _ _ _ => le_trans⟩
  exact ⟨List.perm_insertionSort _ _, List.sorted_insertionSort _ _⟩

/-- Three edges over `duplicateNodes`: from node `5` to node `3`, from node `3` to the used id `9`
that is no node, and a loop at node `3`. -/
def sampleEdges : List InternalExtractorEdge :=
  [⟨⟨⟨0, 0, 0, 1, true, false, false⟩, 5, 3⟩, ⟨0, 0⟩, ⟨.edgeDuration, 1, 0⟩⟩,
    ⟨⟨⟨0, 0, 0, 1, true, true, false⟩, 3, 9⟩, ⟨0, 0⟩, ⟨.edgeDuration, 1, 0⟩⟩,
    ⟨⟨⟨0, 0, 0, 1, true, true, false⟩, 3, 3⟩, ⟨0, 0⟩, ⟨.edgeDuration, 1, 0⟩⟩]

theorem renumberEdges_sampleEdges :
    prepareNodes (List.insertionSort fun a b => a ≤ b)
        (List.insertionSort fun a b => a.nodeId ≤ b.nodeId)
        ⟨[5, 3, 5, 9], duplicateNodes, fun _ => none, 0⟩ = .ok duplicateNodesPrepared ∧
      (∀ edge ∈ sampleEdges,
        edge.result.osmSourceId ∈ [5, 3, 5, 9] ∧ edge.result.osmTargetId ∈ [5, 3, 5, 9]) ∧
      ∃ renumbered, renumberEdges unsignedMax 0 duplicateNodesPrepared.externalToInternalNodeIdMap
          (fun _ _ => 0) (fun _ _ _ data => data)
          (List.insertionSort fun a b => a.result.osmSourceId ≤ b.result.osmSourceId)
          (List.insertionSort fun a b => a.result.osmTargetId ≤ b.result.osmTargetId)
          duplicateNodesPrepared.allNodesList sampleEdges = .ok renumbered ∧
        ∃ original, original.Perm sampleEdges ∧
          List.Forall₂ (Renumbered unsignedMax duplicateNodesPrepared.externalToInternalNodeIdMap
            (duplicateNodes.map (·.nodeId))) original renumbered := by
  have ok : prepareNodes (List.insertionSort fun a b => a ≤ b)
      (List.insertionSort fun a b => a.nodeId ≤ b.nodeId)
      ⟨[5, 3, 5, 9], duplicateNodes, fun _ => none, 0⟩ = .ok duplicateNodesPrepared := by
    simp [prepareNodes, buildNodeIdMap_eq, writeUsedNodes, unsignedMax, unique, uniqueAfter,
      List.insertionSort, List.orderedInsert, duplicateNodes, duplicateNodesPrepared]
  have used : ∀ edge ∈ sampleEdges,
      edge.result.osmSourceId ∈ [5, 3, 5, 9] ∧ edge.result.osmTargetId ∈ [5, 3, 5, 9] := by
    simp [sampleEdges]
  exact ⟨ok, used, renumberEdges_renumbered _ _ (insertionSort_sorts fun id => id)
    (insertionSort_sorts ExternalMemoryNode.nodeId) _ _ _ _ ok _ _ _ _ _
    (insertionSort_sorts fun edge : InternalExtractorEdge => edge.result.osmSourceId)
    (insertionSort_sorts fun edge : InternalExtractorEdge => edge.result.osmTargetId) _ used⟩

/-- The edge from `5` to `3` runs from `0` to `1` with its flags exchanged; the loop has no ends and
the edge to `9` no target. -/
example : renumberEdges unsignedMax 0 duplicateNodesPrepared.externalToInternalNodeIdMap
    (fun _ _ => 0) (fun _ _ _ data => data)
    (List.insertionSort fun a b => a.result.osmSourceId ≤ b.result.osmSourceId)
    (List.insertionSort fun a b => a.result.osmTargetId ≤ b.result.osmTargetId)
    duplicateNodesPrepared.allNodesList sampleEdges = .ok
    [⟨⟨⟨unsignedMax, unsignedMax, 0, 1, true, true, false⟩, 3, 3⟩, ⟨0, 0⟩, ⟨.edgeDuration, 1, 0⟩⟩,
      ⟨⟨⟨0, 1, 0, 10, false, true, false⟩, 5, 3⟩, ⟨12, 22⟩, ⟨.edgeDuration, 1, 0⟩⟩,
      ⟨⟨⟨0, unsignedMax, 0, 1, true, true, false⟩, 3, 9⟩, ⟨10, 20⟩, ⟨.edgeDuration, 1, 0⟩⟩] := by
  simp [renumberEdges, sampleEdges, List.insertionSort, List.orderedInsert, duplicateNodesPrepared,
    duplicateNodes, setStartCoords, computeEdgeWeights, assignFrom, assign, unsignedMax, weighEdge,
    orient, segmentWeight, markTargetsInvalid]
  norm_num
  rfl

end Osrm.Extractor
