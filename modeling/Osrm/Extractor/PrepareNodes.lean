import Osrm.Extractor.PrepareEdges
import Mathlib.Data.List.Sort
import Mathlib.Algebra.Group.Nat.Basic

/-!
# Numbering and writing the used nodes

`PrepareNodes` (`extraction_containers.cpp:198-262`) sorts and deduplicates the OSM ids that ways
refer to, sorts the nodes by OSM id, and walks both lists together, numbering each used id it
finds among the nodes from `0` up in `external_to_internal_node_id_map`. `WriteNodes`
(`extraction_containers.cpp:577-615`) writes the count `max_internal_node_id`, then walks the same
two lists again and writes the node of every id it finds.

The two walks test their comparisons in the other order, but both advance the node on a smaller
node id, the used id on a smaller used id, and both on a match: on any two lists the first walk
numbers exactly the nodes the second writes, in order (`buildNodeIdMap_eq`). On sorted lists
those are the nodes whose id is used, the first of each run of equal ids
(`writeNodes_prepareNodes`).

The two `stxxl::sort` comparators are not among the sources; the sorts are the parameters
`sortUsed` and `sortNodes`. `std::unordered_map` is a function to `Option Nat`, which the
constructor leaves empty.
-/

namespace Osrm.Extractor

/-- Modelled from the spec: `ExternalMemoryNode{lon i32, lat i32, osm_id u64, barrier u1,
traffic_light u1}`; the code reads the OSM id as `node_id`. -/
structure ExternalMemoryNode where
  lon : Int
  lat : Int
  nodeId : Nat
  barrier : Bool
  trafficLights : Bool
  deriving DecidableEq, Repr

/-- The members of `ExtractionContainers` that `PrepareNodes` and `WriteNodes` read or write. -/
structure NodeContainers where
  usedNodeIdList : List Nat
  allNodesList : List ExternalMemoryNode
  externalToInternalNodeIdMap : Nat → Option Nat
  maxInternalNodeId : Nat

/-- `std::unique` after the first of a run: drops every id equal to the one kept before it. -/
def uniqueAfter (previous : Nat) : List Nat → List Nat
  | [] => []
  | id :: rest => if id = previous then uniqueAfter previous rest else id :: uniqueAfter id rest

/-- `std::unique`, with the `resize` that follows it: keeps the first of every run of equal ids. -/
def unique : List Nat → List Nat
  | [] => []
  | first :: rest => first :: uniqueAfter first rest

/-- `external_to_internal_node_id_map[key] = value`. -/
def assign (nodeIdMap : Nat → Option Nat) (key value : Nat) : Nat → Option Nat :=
  fun other => if other = key then some value else nodeIdMap other

/-- The loop "Building node id map", from `internal_id`: the map and the final `internal_id`.
`static_cast<NodeID>` keeps the low 32 bits. -/
def buildNodeIdMap : List ExternalMemoryNode → List Nat → (Nat → Option Nat) → Nat →
    (Nat → Option Nat) × Nat
  | node :: nodes, ref :: refs, nodeIdMap, internalId =>
    if node.nodeId < ref then buildNodeIdMap nodes (ref :: refs) nodeIdMap internalId
    else if node.nodeId > ref then buildNodeIdMap (node :: nodes) refs nodeIdMap internalId
    else buildNodeIdMap nodes refs (assign nodeIdMap ref (internalId % 2 ^ 32)) (internalId + 1)
  | _, _, nodeIdMap, internalId => (nodeIdMap, internalId)
termination_by nodes refs => nodes.length + refs.length

/-- `PrepareNodes()`. -/
def prepareNodes (sortUsed : List Nat → List Nat)
    (sortNodes : List ExternalMemoryNode → List ExternalMemoryNode) (containers : NodeContainers) :
    Except String NodeContainers :=
  let usedNodeIdList := unique (sortUsed containers.usedNodeIdList)
  let allNodesList := sortNodes containers.allNodesList
  let built := buildNodeIdMap allNodesList usedNodeIdList containers.externalToInternalNodeIdMap 0
  if built.2 > unsignedMax then
    .error "There are too many nodes remaining after filtering, OSRM only supports 2^32 unique nodes"
  else .ok ⟨usedNodeIdList, allNodesList, built.1, built.2⟩

/-- What `WriteNodes` writes after the fingerprint: the node count, then the node records. -/
structure NodesFile where
  nodeCount : Nat
  records : List ExternalMemoryNode
  deriving DecidableEq, Repr

/-- The loop "Confirming/Writing used nodes": the nodes it writes. -/
def writeUsedNodes : List Nat → List ExternalMemoryNode → List ExternalMemoryNode
  | id :: ids, node :: nodes =>
    if id < node.nodeId then writeUsedNodes ids (node :: nodes)
    else if id > node.nodeId then writeUsedNodes (id :: ids) nodes
    else node :: writeUsedNodes ids nodes
  | _, _ => []
termination_by ids nodes => ids.length + nodes.length

/-- `WriteNodes(file_out_stream)`: `max_internal_node_id` as an `unsigned`, then the records. -/
def writeNodes (containers : NodeContainers) : NodesFile :=
  ⟨containers.maxInternalNodeId,
    writeUsedNodes containers.usedNodeIdList containers.allNodesList⟩

/-! ### `std::unique` on a sorted list -/

theorem uniqueAfter_sublist (previous : Nat) : ∀ ids : List Nat, (uniqueAfter previous ids).Sublist ids
  | [] => List.Sublist.slnil
  | id :: rest => by
    unfold uniqueAfter
    split
    · exact (uniqueAfter_sublist previous rest).cons id
    · exact (uniqueAfter_sublist id rest).cons₂ id

theorem unique_sublist : ∀ ids : List Nat, (unique ids).Sublist ids
  | [] => List.Sublist.slnil
  | first :: rest => (uniqueAfter_sublist first rest).cons₂ first

theorem mem_uniqueAfter {x : Nat} : ∀ (previous : Nat) (ids : List Nat), x ∈ ids →
    x = previous ∨ x ∈ uniqueAfter previous ids
  | _, [], member => absurd member (List.not_mem_nil x)
  | previous, id :: rest, member => by
    unfold uniqueAfter
    split
    next same =>
      rcases List.mem_cons.mp member with rfl | later
      · exact Or.inl same
      · exact mem_uniqueAfter previous rest later
    next =>
      rcases List.mem_cons.mp member with rfl | later
      · exact Or.inr (List.mem_cons_self _ _)
      · rcases mem_uniqueAfter id rest later with rfl | kept
        · exact Or.inr (List.mem_cons_self _ _)
        · exact Or.inr (List.mem_cons_of_mem _ kept)

theorem mem_unique {x : Nat} {ids : List Nat} (member : x ∈ ids) : x ∈ unique ids := by
  cases ids with
  | nil => cases member
  | cons first rest =>
    rcases List.mem_cons.mp member with rfl | later
    · exact List.mem_cons_self _ _
    · rcases mem_uniqueAfter first rest later with rfl | kept
      · exact List.mem_cons_self _ _
      · exact List.mem_cons_of_mem _ kept

theorem uniqueAfter_sorted : ∀ (previous : Nat) (ids : List Nat),
    (previous :: ids).Sorted (· ≤ ·) → (previous :: uniqueAfter previous ids).Sorted (· < ·)
  | previous, [], _ => List.sorted_singleton previous
  | previous, id :: rest, sorted => by
    have previous_le := List.rel_of_sorted_cons sorted id (List.mem_cons_self _ _)
    have rest_sorted := sorted.of_cons
    unfold uniqueAfter
    split
    next same =>
      subst same
      exact uniqueAfter_sorted id rest rest_sorted
    next differs =>
      have later := uniqueAfter_sorted id rest rest_sorted
      refine List.sorted_cons.mpr ⟨fun x member => ?_, later⟩
      have lt : previous < id := lt_of_le_of_ne previous_le (Ne.symm differs)
      rcases List.mem_cons.mp member with rfl | kept
      · exact lt
      · exact lt_trans lt (List.rel_of_sorted_cons later x kept)

/-- `std::unique` turns a sorted list into a strictly increasing one. -/
theorem unique_sorted {ids : List Nat} (sorted : ids.Sorted (· ≤ ·)) :
    (unique ids).Sorted (· < ·) := by
  cases ids with
  | nil => exact List.sorted_nil
  | cons first rest => exact uniqueAfter_sorted first rest sorted

/-! ### The two walks -/

/-- The map after numbering `records` from `internalId` on, in order. -/
def assignFrom (nodeIdMap : Nat → Option Nat) : List ExternalMemoryNode → Nat → Nat → Option Nat
  | [], _ => nodeIdMap
  | node :: rest, internalId =>
    assignFrom (assign nodeIdMap node.nodeId (internalId % 2 ^ 32)) rest (internalId + 1)

/-- The walk of `PrepareNodes` numbers exactly the nodes the walk of `WriteNodes` writes, on any
two lists. -/
theorem buildNodeIdMap_eq (nodes : List ExternalMemoryNode) (refs : List Nat)
    (nodeIdMap : Nat → Option Nat) (internalId : Nat) :
    buildNodeIdMap nodes refs nodeIdMap internalId =
      (assignFrom nodeIdMap (writeUsedNodes refs nodes) internalId,
        internalId + (writeUsedNodes refs nodes).length) := by
  induction refs, nodes using writeUsedNodes.induct generalizing nodeIdMap internalId with
  | case1 ref refs node nodes smaller ih =>
    rw [buildNodeIdMap, if_neg (by omega), if_pos smaller, writeUsedNodes, if_pos smaller, ih]
  | case2 ref refs node nodes _ larger ih =>
    rw [buildNodeIdMap, if_pos larger, writeUsedNodes, if_neg (by omega), if_pos larger, ih]
  | case3 ref refs node nodes not_smaller not_larger ih =>
    have same : node.nodeId = ref := by omega
    rw [buildNodeIdMap, if_neg (by omega), if_neg (by omega), writeUsedNodes,
      if_neg not_smaller, if_neg not_larger, ih]
    simp only [assignFrom, List.length_cons, same, Prod.mk.injEq, true_and]
    omega
  | case4 refs nodes done =>
    cases refs with
    | nil => cases nodes <;> simp [buildNodeIdMap, writeUsedNodes, assignFrom]
    | cons ref refs =>
      cases nodes with
      | nil => simp [buildNodeIdMap, writeUsedNodes, assignFrom]
      | cons node nodes => exact absurd rfl (done ref refs node nodes rfl)

theorem writeUsedNodes_sublist (refs : List Nat) (nodes : List ExternalMemoryNode) :
    (writeUsedNodes refs nodes).Sublist nodes ∧
      ((writeUsedNodes refs nodes).map (·.nodeId)).Sublist refs := by
  induction refs, nodes using writeUsedNodes.induct with
  | case1 ref refs node nodes smaller ih =>
    rw [writeUsedNodes, if_pos smaller]
    exact ⟨ih.1, ih.2.cons ref⟩
  | case2 ref refs node nodes not_smaller larger ih =>
    rw [writeUsedNodes, if_neg not_smaller, if_pos larger]
    exact ⟨ih.1.cons node, ih.2⟩
  | case3 ref refs node nodes not_smaller not_larger ih =>
    rw [writeUsedNodes, if_neg not_smaller, if_neg not_larger, List.map_cons,
      show node.nodeId = ref by omega]
    exact ⟨ih.1.cons₂ node, ih.2.cons₂ ref⟩
  | case4 refs nodes done =>
    cases refs with
    | nil => simp [writeUsedNodes]
    | cons ref refs =>
      cases nodes with
      | nil => simp [writeUsedNodes]
      | cons node nodes => exact absurd rfl (done ref refs node nodes rfl)

theorem assignFrom_of_not_mem (nodeIdMap : Nat → Option Nat) (records : List ExternalMemoryNode)
    (internalId : Nat) {id : Nat} (absent : id ∉ records.map (·.nodeId)) :
    assignFrom nodeIdMap records internalId id = nodeIdMap id := by
  induction records generalizing nodeIdMap internalId with
  | nil => rfl
  | cons node rest ih =>
    rw [List.map_cons, List.mem_cons, not_or] at absent
    rw [assignFrom, ih _ _ absent.2, assign, if_neg absent.1]

/-- With distinct ids, the map numbers the `k`-th record `internalId + k`, modulo `2^32`. -/
theorem assignFrom_of_getElem? {records : List ExternalMemoryNode}
    (distinct : (records.map (·.nodeId)).Nodup) {k id : Nat}
    (at_k : (records.map (·.nodeId))[k]? = some id) (nodeIdMap : Nat → Option Nat)
    (internalId : Nat) :
    assignFrom nodeIdMap records internalId id = some ((internalId + k) % 2 ^ 32) := by
  induction records generalizing nodeIdMap internalId k with
  | nil => cases at_k
  | cons node rest ih =>
    rw [List.map_cons, List.nodup_cons] at distinct
    cases k with
    | zero =>
      obtain rfl : node.nodeId = id := by simpa using at_k
      rw [assignFrom, assignFrom_of_not_mem _ _ _ distinct.1, assign, if_pos rfl, Nat.add_zero]
    | succ k =>
      rw [assignFrom, ih distinct.2 (by simpa using at_k), Nat.add_right_comm, Nat.add_assoc]

/-- A successful `PrepareNodes` keeps the sorted lists, numbers the nodes `WriteNodes` will write,
and counts them; there are at most `std::numeric_limits<NodeID>::max()` of them. -/
theorem prepareNodes_eq {sortUsed : List Nat → List Nat}
    {sortNodes : List ExternalMemoryNode → List ExternalMemoryNode} {containers prepared : NodeContainers}
    (ok : prepareNodes sortUsed sortNodes containers = .ok prepared) :
    prepared = ⟨unique (sortUsed containers.usedNodeIdList), sortNodes containers.allNodesList,
        assignFrom containers.externalToInternalNodeIdMap
          (writeUsedNodes (unique (sortUsed containers.usedNodeIdList))
            (sortNodes containers.allNodesList)) 0,
        (writeUsedNodes (unique (sortUsed containers.usedNodeIdList))
          (sortNodes containers.allNodesList)).length⟩ ∧
      (writeUsedNodes (unique (sortUsed containers.usedNodeIdList))
        (sortNodes containers.allNodesList)).length ≤ unsignedMax := by
  unfold prepareNodes at ok
  dsimp only at ok
  rw [buildNodeIdMap_eq, Nat.zero_add] at ok
  split at ok
  · cases ok
  next small =>
    cases ok
    exact ⟨rfl, Nat.le_of_not_lt small⟩

/-- After `PrepareNodes` from the empty map the constructor leaves, the ids of the nodes `WriteNodes`
will write are distinct and at most `std::numeric_limits<NodeID>::max()` many, and the map numbers
an id `k` exactly when it is the id of the `k`-th of them. -/
theorem prepareNodes_numbered {sortUsed : List Nat → List Nat}
    {sortNodes : List ExternalMemoryNode → List ExternalMemoryNode}
    (sortsUsed : ∀ ids, (sortUsed ids).Perm ids ∧ (sortUsed ids).Sorted (· ≤ ·))
    {usedNodeIdList : List Nat} {allNodesList : List ExternalMemoryNode} {maxInternalNodeId : Nat}
    {prepared : NodeContainers}
    (ok : prepareNodes sortUsed sortNodes
      ⟨usedNodeIdList, allNodesList, fun _ => none, maxInternalNodeId⟩ = .ok prepared) :
    ((writeNodes prepared).records.map (·.nodeId)).Nodup ∧
      (writeNodes prepared).records.length ≤ unsignedMax ∧
      ∀ id k, prepared.externalToInternalNodeIdMap id = some k ↔
        ((writeNodes prepared).records.map (·.nodeId))[k]? = some id := by
  obtain ⟨rfl, small⟩ := prepareNodes_eq ok
  dsimp only [writeNodes] at small ⊢
  have distinct := ((unique_sorted (sortsUsed usedNodeIdList).2).sublist
    (writeUsedNodes_sublist _ (sortNodes allNodesList)).2).nodup
  have below : ∀ {k id}, ((writeUsedNodes (unique (sortUsed usedNodeIdList))
      (sortNodes allNodesList)).map (·.nodeId))[k]? = some id → (0 + k) % 2 ^ 32 = k := by
    intro k id at_k
    have inside := (List.getElem?_eq_some_iff.mp at_k).1
    rw [List.length_map] at inside
    unfold unsignedMax at small
    omega
  refine ⟨distinct, small, fun id k => ⟨fun numbered => ?_, fun at_k => ?_⟩⟩
  · by_cases listed : id ∈ (writeUsedNodes (unique (sortUsed usedNodeIdList))
        (sortNodes allNodesList)).map (·.nodeId)
    · obtain ⟨j, at_j⟩ := List.mem_iff_getElem?.mp listed
      rw [assignFrom_of_getElem? distinct at_j, below at_j, Option.some.injEq] at numbered
      exact numbered ▸ at_j
    · rw [assignFrom_of_not_mem _ _ _ listed] at numbered
      cases numbered
  · rw [assignFrom_of_getElem? distinct at_k, below at_k]

/-- `WriteNodes` after `PrepareNodes`, from the empty map the constructor leaves: the count it
writes first is `max_internal_node_id`, and so is the number of records; the `k`-th record is a
node of `all_nodes_list` with a used id that the map numbers `k`, and every id the map numbers
is written exactly once, as the record of its number. -/
theorem writeNodes_prepareNodes (sortUsed : List Nat → List Nat)
    (sortNodes : List ExternalMemoryNode → List ExternalMemoryNode)
    (sortsUsed : ∀ ids, (sortUsed ids).Perm ids ∧ (sortUsed ids).Sorted (· ≤ ·))
    (permutesNodes : ∀ nodes, (sortNodes nodes).Perm nodes)
    (usedNodeIdList : List Nat) (allNodesList : List ExternalMemoryNode) (maxInternalNodeId : Nat)
    (prepared : NodeContainers)
    (ok : prepareNodes sortUsed sortNodes
      ⟨usedNodeIdList, allNodesList, fun _ => none, maxInternalNodeId⟩ = .ok prepared) :
    (writeNodes prepared).nodeCount = prepared.maxInternalNodeId ∧
      (writeNodes prepared).records.length = prepared.maxInternalNodeId ∧
      (∀ k record, (writeNodes prepared).records[k]? = some record →
        record ∈ allNodesList ∧ record.nodeId ∈ usedNodeIdList ∧
          prepared.externalToInternalNodeIdMap record.nodeId = some k) ∧
      ∀ id k, prepared.externalToInternalNodeIdMap id = some k →
        ((writeNodes prepared).records.map (·.nodeId))[k]? = some id ∧
          ((writeNodes prepared).records.map (·.nodeId)).count id = 1 := by
  obtain ⟨distinct, -, numbered⟩ := prepareNodes_numbered sortsUsed ok
  obtain ⟨rfl, -⟩ := prepareNodes_eq ok
  dsimp only [writeNodes] at distinct numbered ⊢
  obtain ⟨nodesSublist, idsSublist⟩ := writeUsedNodes_sublist (unique (sortUsed usedNodeIdList))
    (sortNodes allNodesList)
  refine ⟨rfl, rfl, fun k record at_k => ?_, fun id k at_k => ?_⟩
  · have member := List.mem_iff_getElem?.mpr ⟨k, at_k⟩
    refine ⟨(permutesNodes allNodesList).mem_iff.mp (nodesSublist.subset member), ?_,
      (numbered _ k).mpr (by rw [List.getElem?_map, at_k]; rfl)⟩
    exact (sortsUsed usedNodeIdList).1.mem_iff.mp ((unique_sublist _).subset
      (idsSublist.subset (List.mem_map_of_mem _ member)))
  · have at_k := (numbered id k).mp at_k
    exact ⟨at_k, List.count_eq_one_of_mem distinct (List.mem_iff_getElem?.mpr ⟨k, at_k⟩)⟩

/-- Two nodes with OSM id `3`, then the nodes `5` and `7`. -/
def duplicateNodes : List ExternalMemoryNode :=
  [⟨10, 20, 3, false, false⟩, ⟨11, 21, 3, true, false⟩, ⟨12, 22, 5, false, true⟩,
    ⟨13, 23, 7, false, false⟩]

/-- The containers after `PrepareNodes` on `duplicateNodes` and the used ids `5, 3, 5, 9`: the
first node `3` is numbered `0` and node `5` is numbered `1`. -/
def duplicateNodesPrepared : NodeContainers :=
  ⟨[3, 5, 9], duplicateNodes,
    assignFrom (fun _ => none) [⟨10, 20, 3, false, false⟩, ⟨12, 22, 5, false, true⟩] 0, 2⟩

theorem writeNodes_prepareNodes_duplicates :
    (∀ ids : List Nat,
      (ids.insertionSort (· ≤ ·)).Perm ids ∧ (ids.insertionSort (· ≤ ·)).Sorted (· ≤ ·)) ∧
      (∀ nodes : List ExternalMemoryNode, (id nodes).Perm nodes) ∧
      prepareNodes (List.insertionSort (· ≤ ·)) id
        ⟨[5, 3, 5, 9], duplicateNodes, fun _ => none, 0⟩ = .ok duplicateNodesPrepared ∧
      (writeNodes duplicateNodesPrepared).nodeCount = duplicateNodesPrepared.maxInternalNodeId ∧
      (writeNodes duplicateNodesPrepared).records.length = duplicateNodesPrepared.maxInternalNodeId ∧
      (∀ k record, (writeNodes duplicateNodesPrepared).records[k]? = some record →
        record ∈ duplicateNodes ∧ record.nodeId ∈ [5, 3, 5, 9] ∧
          duplicateNodesPrepared.externalToInternalNodeIdMap record.nodeId = some k) ∧
      ∀ id k, duplicateNodesPrepared.externalToInternalNodeIdMap id = some k →
        ((writeNodes duplicateNodesPrepared).records.map (·.nodeId))[k]? = some id ∧
          ((writeNodes duplicateNodesPrepared).records.map (·.nodeId)).count id = 1 := by
  have sorts : ∀ ids : List Nat,
      (ids.insertionSort (· ≤ ·)).Perm ids ∧ (ids.insertionSort (· ≤ ·)).Sorted (· ≤ ·) :=
    fun ids => ⟨List.perm_insertionSort _ _, List.sorted_insertionSort _ _⟩
  have ok : prepareNodes (List.insertionSort (· ≤ ·)) id
      ⟨[5, 3, 5, 9], duplicateNodes, fun _ => none, 0⟩ = .ok duplicateNodesPrepared := by
    simp [prepareNodes, buildNodeIdMap_eq, writeUsedNodes, unsignedMax, unique, uniqueAfter,
      List.insertionSort, List.orderedInsert, duplicateNodes, duplicateNodesPrepared]
  exact ⟨sorts, fun _ => List.Perm.refl _, ok,
    writeNodes_prepareNodes _ _ sorts (fun _ => List.Perm.refl _) _ _ _ _ ok⟩

example : (writeNodes duplicateNodesPrepared).records =
    [⟨10, 20, 3, false, false⟩, ⟨12, 22, 5, false, true⟩] := by
  simp [writeNodes, duplicateNodesPrepared, duplicateNodes, writeUsedNodes]

section Sorted

variable {node : ExternalMemoryNode} {nodes : List ExternalMemoryNode}

theorem lowest_of_sorted (nodesSorted : (node :: nodes).Sorted fun a b => a.nodeId ≤ b.nodeId) :
    ∀ other ∈ node :: nodes, node.nodeId ≤ other.nodeId := by
  intro other member
  rcases List.mem_cons.mp member with rfl | later
  · exact le_refl _
  · exact List.rel_of_sorted_cons nodesSorted other later

/-- On sorted lists the walk of `WriteNodes` meets every used id that some node has. -/
theorem mem_writeUsedNodes {refs : List Nat} {nodes : List ExternalMemoryNode}
    (refsSorted : refs.Sorted (· < ·)) (nodesSorted : nodes.Sorted fun a b => a.nodeId ≤ b.nodeId)
    {id : Nat} (used : id ∈ refs) (present : ∃ node ∈ nodes, node.nodeId = id) :
    id ∈ (writeUsedNodes refs nodes).map (·.nodeId) := by
  induction refs, nodes using writeUsedNodes.induct with
  | case1 ref refs node nodes smaller ih =>
    rw [writeUsedNodes, if_pos smaller]
    rcases List.mem_cons.mp used with rfl | later
    · obtain ⟨other, member, rfl⟩ := present
      exact absurd (lowest_of_sorted nodesSorted other member) (by omega)
    · exact ih refsSorted.of_cons nodesSorted later present
  | case2 ref refs node nodes not_smaller larger ih =>
    rw [writeUsedNodes, if_neg not_smaller, if_pos larger]
    obtain ⟨other, member, rfl⟩ := present
    rcases List.mem_cons.mp member with rfl | later
    · have first : ref ≤ other.nodeId := by
        rcases List.mem_cons.mp used with same | later
        · omega
        · exact le_of_lt (List.rel_of_sorted_cons refsSorted _ later)
      omega
    · exact ih refsSorted nodesSorted.of_cons used ⟨other, later, rfl⟩
  | case3 ref refs node nodes not_smaller not_larger ih =>
    rw [writeUsedNodes, if_neg not_smaller, if_neg not_larger, List.map_cons]
    rcases List.mem_cons.mp used with rfl | later
    · exact List.mem_cons.mpr (Or.inl (by omega))
    · have above := List.rel_of_sorted_cons refsSorted id later
      obtain ⟨other, member, rfl⟩ := present
      rcases List.mem_cons.mp member with rfl | rest
      · omega
      · exact List.mem_cons_of_mem _ (ih refsSorted.of_cons nodesSorted.of_cons later ⟨other, rest, rfl⟩)
  | case4 refs nodes done =>
    cases refs with
    | nil => cases used
    | cons ref refs =>
      cases nodes with
      | nil => obtain ⟨_, member, -⟩ := present; cases member
      | cons node nodes => exact absurd rfl (done ref refs node nodes rfl)

/-- With the nodes sorted by OSM id, `PrepareNodes` numbers every used id that some node has. -/
theorem prepareNodes_numbers_used {sortUsed : List Nat → List Nat}
    {sortNodes : List ExternalMemoryNode → List ExternalMemoryNode}
    (sortsUsed : ∀ ids, (sortUsed ids).Perm ids ∧ (sortUsed ids).Sorted (· ≤ ·))
    (sortsNodes : ∀ nodes, (sortNodes nodes).Perm nodes ∧
      (sortNodes nodes).Sorted fun a b => a.nodeId ≤ b.nodeId)
    {usedNodeIdList : List Nat} {allNodesList : List ExternalMemoryNode} {maxInternalNodeId : Nat}
    {prepared : NodeContainers}
    (ok : prepareNodes sortUsed sortNodes
      ⟨usedNodeIdList, allNodesList, fun _ => none, maxInternalNodeId⟩ = .ok prepared)
    {id : Nat} (used : id ∈ usedNodeIdList) (present : id ∈ allNodesList.map (·.nodeId)) :
    (prepared.externalToInternalNodeIdMap id).isSome := by
  obtain ⟨-, -, numbered⟩ := prepareNodes_numbered sortsUsed ok
  obtain ⟨rfl, -⟩ := prepareNodes_eq ok
  obtain ⟨node, member, rfl⟩ := List.mem_map.mp present
  have listed := mem_writeUsedNodes (unique_sorted (sortsUsed usedNodeIdList).2)
    (sortsNodes allNodesList).2 (mem_unique ((sortsUsed usedNodeIdList).1.mem_iff.mpr used))
    ⟨node, (sortsNodes allNodesList).1.mem_iff.mpr member, rfl⟩
  obtain ⟨k, at_k⟩ := List.mem_iff_getElem?.mp listed
  rw [(numbered _ k).mpr at_k]
  rfl

end Sorted

end Osrm.Extractor
