import Osrm.Engine.QueryGraph
import Osrm.Extractor.PrepareEdges
import Mathlib.Data.List.Destutter
import Mathlib.Data.List.Sort
import Mathlib.Logic.Relation
import Mathlib.Algebra.Group.Nat.Basic

/-!
# Components and snappable edge-based nodes

`FindComponents` (`extractor.cpp:314-391`) pushes an arc for every direction an edge-based edge
can be taken in, and both arcs between the two nodes of a segment that can be travelled both
ways, sorts them, drops repeated arcs with `std::unique`, and runs `TarjanSCC` on the graph of
`max_edge_id + 1` nodes they make. Every edge-based node then gets `1 +` the component of its
forward node, and is tiny when that component has fewer than `small_component_size` nodes.
`BuildRTree` (`extractor.cpp:545-585`) keeps the edge-based nodes marked as start points,
moving them to the front of the vector in place, and throws when none is left.

`TarjanSCC`, `util::StaticGraph` and `util::StaticRTree` are not in this tree. What
`FindComponents` reads of the component search is `ComponentSearch.Represents`: a component id
below the node count, equal for two nodes exactly when they are strongly connected, and a
component size that counts its nodes. `tbb::parallel_sort` is the parameter `sortEdges`, and
`EdgeBasedNode` and `EdgeBasedEdge` hold the fields the two functions read.

* `uncontractedEdges_arcs`: the graph handed to `TarjanSCC` has exactly the arcs `InputArc` that
  the input stands for, each once, in `(source, target)` order.
* `findComponents_components`: the `BOOST_ASSERT` that both nodes of a segment lie in one
  component holds; two nodes share a component id exactly when their forward nodes are strongly
  connected through `InputArc`; a node is tiny exactly when that component has fewer than
  `small_component_size` nodes.
* `buildRTree_eq_filter`: the compaction keeps exactly the start points, in order.
-/

namespace Osrm.Extractor

open Engine (SegmentID)

/-- The fields of `EdgeBasedEdge` that `FindComponents` reads; its `weight` is read only by a
`BOOST_ASSERT_MSG`. -/
structure EdgeBasedEdge where
  source : Nat
  target : Nat
  forward : Bool
  backward : Bool
  deriving DecidableEq, Repr

/-- `EdgeBasedNode::component`, as `FindComponents` sets it. -/
structure ComponentType where
  id : Nat
  isTiny : Bool
  deriving DecidableEq, Repr

/-- The fields of `EdgeBasedNode` that `FindComponents` reads or writes. -/
structure EdgeBasedNode where
  forwardSegmentId : SegmentID
  reverseSegmentId : SegmentID
  component : ComponentType
  deriving DecidableEq, Repr

/-! ## `FindComponents` -/

/-- `InputEdge` of `FindComponents`. Its `UncontractedEdgeData` is empty, so `operator==`
compares every field. -/
structure InputEdge where
  source : Nat
  target : Nat
  deriving DecidableEq, Repr

/-- `InputEdge::operator<`. -/
def InputEdge.lt (edge rhs : InputEdge) : Bool :=
  edge.source < rhs.source || (edge.source == rhs.source && edge.target < rhs.target)

/-- The arcs the first loop pushes for one edge-based edge. -/
def edgeArcs (edge : EdgeBasedEdge) : List InputEdge :=
  (if edge.forward then [⟨edge.source, edge.target⟩] else []) ++
    if edge.backward then [⟨edge.target, edge.source⟩] else []

/-- The arcs the second loop pushes to connect the forward and backward node of a segment. -/
def segmentArcs (node : EdgeBasedNode) : List InputEdge :=
  if node.reverseSegmentId.enabled then
    [⟨node.forwardSegmentId.id, node.reverseSegmentId.id⟩,
      ⟨node.reverseSegmentId.id, node.forwardSegmentId.id⟩]
  else []

/-- `edges` after `tbb::parallel_sort`, `std::unique` and the `resize`: the arcs of
`uncontractor_graph`. `std::unique` keeps an arc when it differs from the last one kept. -/
def uncontractedEdges (sortEdges : List InputEdge → List InputEdge)
    (inputEdgeList : List EdgeBasedEdge) (inputNodes : List EdgeBasedNode) : List InputEdge :=
  (sortEdges (inputEdgeList.flatMap edgeArcs ++ inputNodes.flatMap segmentArcs)).destutter
    (· ≠ ·)

/-- What `FindComponents` asks of `TarjanSCC` after `Run`. -/
structure ComponentSearch where
  getComponentID : Nat → Nat
  getComponentSize : Nat → Nat

/-- An arc of the graph whose edge list is `edges`. -/
def InputEdge.Arc (edges : List InputEdge) (source target : Nat) : Prop :=
  (⟨source, target⟩ : InputEdge) ∈ edges

/-- Each of the two nodes reaches the other. -/
def StronglyConnected (arc : Nat → Nat → Prop) (node other : Nat) : Prop :=
  Relation.ReflTransGen arc node other ∧ Relation.ReflTransGen arc other node

/-- The contract of `TarjanSCC` on the graph of `numberOfNodes` nodes and the arcs `edges`. -/
def ComponentSearch.Represents (componentSearch : ComponentSearch) (numberOfNodes : Nat)
    (edges : List InputEdge) : Prop :=
  ∀ node < numberOfNodes, componentSearch.getComponentID node < numberOfNodes ∧
    componentSearch.getComponentSize (componentSearch.getComponentID node) =
      ((List.range numberOfNodes).filter fun other =>
        componentSearch.getComponentID other = componentSearch.getComponentID node).length ∧
    ∀ other < numberOfNodes, componentSearch.getComponentID node =
      componentSearch.getComponentID other ↔ StronglyConnected (InputEdge.Arc edges) node other

/-- The last loop of `FindComponents` on one node: `1 + forward_component` in `unsigned`
arithmetic, tiny below `config.small_component_size`. -/
def labelComponent (componentSearch : ComponentSearch) (smallComponentSize : Nat)
    (node : EdgeBasedNode) : EdgeBasedNode :=
  let forwardComponent := componentSearch.getComponentID node.forwardSegmentId.id
  let componentSize := componentSearch.getComponentSize forwardComponent
  { node with
    component := ⟨(1 + forwardComponent) % 2 ^ 32, componentSize < smallComponentSize⟩ }

/-- `Extractor::FindComponents`: the graph has `max_edge_id + 1` nodes, an `unsigned` sum. -/
def findComponents (sortEdges : List InputEdge → List InputEdge)
    (tarjanSCC : Nat → List InputEdge → ComponentSearch) (smallComponentSize maxEdgeId : Nat)
    (inputEdgeList : List EdgeBasedEdge) (inputNodes : List EdgeBasedNode) :
    List EdgeBasedNode :=
  let componentSearch :=
    tarjanSCC ((maxEdgeId + 1) % 2 ^ 32) (uncontractedEdges sortEdges inputEdgeList inputNodes)
  inputNodes.map (labelComponent componentSearch smallComponentSize)

/-- The arcs the input of `FindComponents` stands for: each direction an edge-based edge can be
taken in, and both directions between the two nodes of a segment that can be travelled both
ways. -/
inductive InputArc (inputEdgeList : List EdgeBasedEdge) (inputNodes : List EdgeBasedNode) :
    Nat → Nat → Prop
  | forward {edge : EdgeBasedEdge} : edge ∈ inputEdgeList → edge.forward = true →
      InputArc inputEdgeList inputNodes edge.source edge.target
  | backward {edge : EdgeBasedEdge} : edge ∈ inputEdgeList → edge.backward = true →
      InputArc inputEdgeList inputNodes edge.target edge.source
  | toReverse {node : EdgeBasedNode} : node ∈ inputNodes → node.reverseSegmentId.enabled = true →
      InputArc inputEdgeList inputNodes node.forwardSegmentId.id node.reverseSegmentId.id
  | toForward {node : EdgeBasedNode} : node ∈ inputNodes → node.reverseSegmentId.enabled = true →
      InputArc inputEdgeList inputNodes node.reverseSegmentId.id node.forwardSegmentId.id

/-! ### The arcs survive the sort and `std::unique` -/

/-- `std::unique` drops an element only next to an equal one it keeps. -/
theorem mem_destutter'_ne {α : Type} [DecidableEq α] {x : α} :
    ∀ (kept : α) (rest : List α), x ∈ kept :: rest → x ∈ rest.destutter' (· ≠ ·) kept
  | kept, [], member => by simpa using member
  | kept, next :: rest, member => by
    by_cases differs : kept ≠ next
    · rw [List.destutter'_cons_pos _ differs]
      rcases List.mem_cons.mp member with rfl | member
      · exact List.mem_cons_self _ _
      · exact List.mem_cons_of_mem _ (mem_destutter'_ne next rest member)
    · rw [List.destutter'_cons_neg _ differs]
      rw [not_not] at differs
      subst differs
      exact mem_destutter'_ne kept rest (by simpa using member)

theorem mem_destutter_ne {α : Type} [DecidableEq α] {x : α} :
    ∀ {items : List α}, x ∈ items → x ∈ items.destutter (· ≠ ·)
  | _ :: rest, member => by rw [List.destutter_cons']; exact mem_destutter'_ne _ rest member

section Arcs

variable {inputEdgeList : List EdgeBasedEdge} {inputNodes : List EdgeBasedNode}
  {source target : Nat}

theorem mem_edgeArcs {edge : EdgeBasedEdge} :
    (⟨source, target⟩ : InputEdge) ∈ edgeArcs edge ↔
      edge.forward = true ∧ edge.source = source ∧ edge.target = target ∨
        edge.backward = true ∧ edge.target = source ∧ edge.source = target := by
  unfold edgeArcs
  cases edge.forward <;> cases edge.backward <;> simp [eq_comm]

theorem mem_segmentArcs {node : EdgeBasedNode} :
    (⟨source, target⟩ : InputEdge) ∈ segmentArcs node ↔ node.reverseSegmentId.enabled = true ∧
      (node.forwardSegmentId.id = source ∧ node.reverseSegmentId.id = target ∨
        node.reverseSegmentId.id = source ∧ node.forwardSegmentId.id = target) := by
  unfold segmentArcs
  cases node.reverseSegmentId.enabled <;> simp [eq_comm]

/-- The two loops push exactly the arcs `InputArc`. -/
theorem inputArc_iff : InputArc inputEdgeList inputNodes source target ↔
    (⟨source, target⟩ : InputEdge) ∈
      inputEdgeList.flatMap edgeArcs ++ inputNodes.flatMap segmentArcs := by
  simp only [List.mem_append, List.mem_flatMap, mem_edgeArcs, mem_segmentArcs]
  constructor
  · rintro (⟨member, forward⟩ | ⟨member, backward⟩ | ⟨member, enabled⟩ | ⟨member, enabled⟩)
    · exact .inl ⟨_, member, .inl ⟨forward, rfl, rfl⟩⟩
    · exact .inl ⟨_, member, .inr ⟨backward, rfl, rfl⟩⟩
    · exact .inr ⟨_, member, enabled, .inl ⟨rfl, rfl⟩⟩
    · exact .inr ⟨_, member, enabled, .inr ⟨rfl, rfl⟩⟩
  · rintro (⟨edge, member, ⟨forward, rfl, rfl⟩ | ⟨backward, rfl, rfl⟩⟩ |
      ⟨node, member, enabled, ⟨rfl, rfl⟩ | ⟨rfl, rfl⟩⟩)
    · exact .forward member forward
    · exact .backward member backward
    · exact .toReverse member enabled
    · exact .toForward member enabled

theorem mem_uncontractedEdges {sortEdges : List InputEdge → List InputEdge}
    (sorts : ∀ edges, (sortEdges edges).Perm edges) :
    (⟨source, target⟩ : InputEdge) ∈ uncontractedEdges sortEdges inputEdgeList inputNodes ↔
      InputArc inputEdgeList inputNodes source target := by
  rw [inputArc_iff,
    ← (sorts (inputEdgeList.flatMap edgeArcs ++ inputNodes.flatMap segmentArcs)).mem_iff]
  exact ⟨fun member => (List.destutter_sublist _ _).subset member, mem_destutter_ne⟩

theorem arc_uncontractedEdges {sortEdges : List InputEdge → List InputEdge}
    (sorts : ∀ edges, (sortEdges edges).Perm edges) :
    InputEdge.Arc (uncontractedEdges sortEdges inputEdgeList inputNodes) =
      InputArc inputEdgeList inputNodes :=
  funext₂ fun _ _ => propext (mem_uncontractedEdges sorts)

end Arcs

/-! ### The arcs come out strictly sorted -/

theorem InputEdge.lt_trans {edge middle rhs : InputEdge} (first : edge.lt middle = true)
    (second : middle.lt rhs = true) : edge.lt rhs = true := by
  simp only [InputEdge.lt, Bool.or_eq_true, Bool.and_eq_true, decide_eq_true_eq,
    beq_iff_eq] at *
  omega

theorem InputEdge.lt_of_ne {edge rhs : InputEdge} (differs : edge ≠ rhs)
    (notAfter : rhs.lt edge = false) : edge.lt rhs = true := by
  cases edge
  cases rhs
  simp only [ne_eq, InputEdge.mk.injEq, InputEdge.lt, Bool.or_eq_false_iff, Bool.and_eq_false_iff,
    decide_eq_false_iff_not, beq_eq_false_iff_ne, Bool.or_eq_true, Bool.and_eq_true,
    decide_eq_true_eq, beq_iff_eq] at *
  omega

theorem InputEdge.not_lt_total (edge rhs : InputEdge) :
    rhs.lt edge = false ∨ edge.lt rhs = false := by
  simp only [InputEdge.lt, Bool.or_eq_false_iff, Bool.and_eq_false_iff, decide_eq_false_iff_not,
    beq_eq_false_iff_ne]
  omega

theorem InputEdge.not_lt_trans {edge middle rhs : InputEdge} (first : middle.lt edge = false)
    (second : rhs.lt middle = false) : rhs.lt edge = false := by
  simp only [InputEdge.lt, Bool.or_eq_false_iff, Bool.and_eq_false_iff, decide_eq_false_iff_not,
    beq_eq_false_iff_ne] at *
  omega

theorem chain'_and {α : Type} {R S : α → α → Prop} :
    ∀ {items : List α}, items.Chain' R → items.Chain' S → items.Chain' fun a b => R a b ∧ S a b
  | [], _, _ => List.chain'_nil
  | [_], _, _ => List.chain'_singleton _
  | _ :: _ :: _, first, second => by
    rw [List.chain'_cons] at *
    exact ⟨⟨first.1, second.1⟩, chain'_and first.2 second.2⟩

/-- After a sort by `operator<`, `std::unique` leaves every arc before the next. -/
theorem uncontractedEdges_sorted {sortEdges : List InputEdge → List InputEdge}
    (sorts : ∀ edges, (sortEdges edges).Sorted fun edge rhs => rhs.lt edge = false)
    (inputEdgeList : List EdgeBasedEdge) (inputNodes : List EdgeBasedNode) :
    (uncontractedEdges sortEdges inputEdgeList inputNodes).Sorted
      fun edge rhs => edge.lt rhs = true := by
  have : IsTrans InputEdge fun edge rhs => edge.lt rhs = true :=
    ⟨fun _ _ _ => InputEdge.lt_trans⟩
  have notAfter := ((sorts (inputEdgeList.flatMap edgeArcs ++ inputNodes.flatMap segmentArcs)).sublist
    (List.destutter_sublist (· ≠ ·) _)).chain'
  refine List.chain'_iff_pairwise.mp
    ((chain'_and (List.destutter_is_chain' (· ≠ ·) _) notAfter).imp ?_)
  exact fun _ _ ordered => InputEdge.lt_of_ne ordered.1 ordered.2

/-- The graph handed to `TarjanSCC` has exactly the arcs the input stands for, each once and in
`(source, target)` order, as `util::StaticGraph` expects them. -/
theorem uncontractedEdges_arcs (sortEdges : List InputEdge → List InputEdge)
    (inputEdgeList : List EdgeBasedEdge) (inputNodes : List EdgeBasedNode)
    (sorts : ∀ edges, (sortEdges edges).Perm edges ∧
      (sortEdges edges).Sorted fun edge rhs => rhs.lt edge = false) :
    (∀ source target, (⟨source, target⟩ : InputEdge) ∈
        uncontractedEdges sortEdges inputEdgeList inputNodes ↔
          InputArc inputEdgeList inputNodes source target) ∧
      (uncontractedEdges sortEdges inputEdgeList inputNodes).Sorted
        fun edge rhs => edge.lt rhs = true :=
  ⟨fun _ _ => mem_uncontractedEdges fun edges => (sorts edges).1,
    uncontractedEdges_sorted (fun edges => (sorts edges).2) inputEdgeList inputNodes⟩

/-- An insertion sort by `operator<` is a sort `FindComponents` may use. -/
theorem insertionSort_sorts_edges (edges : List InputEdge) :
    (edges.insertionSort fun edge rhs => rhs.lt edge = false).Perm edges ∧
      (edges.insertionSort fun edge rhs => rhs.lt edge = false).Sorted
        fun edge rhs => rhs.lt edge = false := by
  have : IsTotal InputEdge fun edge rhs => rhs.lt edge = false := ⟨InputEdge.not_lt_total⟩
  have : IsTrans InputEdge fun edge rhs => rhs.lt edge = false :=
    ⟨fun _ _ _ => InputEdge.not_lt_trans⟩
  exact ⟨List.perm_insertionSort _ _, List.sorted_insertionSort _ _⟩

/-- One segment that can be travelled both ways, its two nodes `0` and `1`. -/
def twoWaySegment : List EdgeBasedNode := [⟨⟨0, true⟩, ⟨1, true⟩, ⟨0, false⟩⟩]

/-- An edge-based edge between the two nodes of `twoWaySegment`, open both ways. -/
def twoWayEdges : List EdgeBasedEdge := [⟨0, 1, true, true⟩]

theorem uncontractedEdges_arcs_twoWaySegment :
    (∀ edges : List InputEdge,
      (edges.insertionSort fun edge rhs => rhs.lt edge = false).Perm edges ∧
        (edges.insertionSort fun edge rhs => rhs.lt edge = false).Sorted
          fun edge rhs => rhs.lt edge = false) ∧
      (∀ source target, (⟨source, target⟩ : InputEdge) ∈
          uncontractedEdges (List.insertionSort fun edge rhs => rhs.lt edge = false)
            twoWayEdges twoWaySegment ↔ InputArc twoWayEdges twoWaySegment source target) ∧
      (uncontractedEdges (List.insertionSort fun edge rhs => rhs.lt edge = false)
          twoWayEdges twoWaySegment).Sorted fun edge rhs => edge.lt rhs = true :=
  ⟨insertionSort_sorts_edges,
    uncontractedEdges_arcs _ twoWayEdges twoWaySegment insertionSort_sorts_edges⟩

example : uncontractedEdges (List.insertionSort fun edge rhs => rhs.lt edge = false)
    twoWayEdges twoWaySegment = [⟨0, 1⟩, ⟨1, 0⟩] := by
  decide

/-! ### The components -/

section Components

variable {sortEdges : List InputEdge → List InputEdge}
  {tarjanSCC : Nat → List InputEdge → ComponentSearch} {smallComponentSize maxEdgeId : Nat}
  {inputEdgeList : List EdgeBasedEdge} {inputNodes : List EdgeBasedNode}

/-- With a component id below the node count, `1 + forward_component` does not wrap. -/
theorem labelComponent_id {componentSearch : ComponentSearch} {node : EdgeBasedNode}
    (below : componentSearch.getComponentID node.forwardSegmentId.id < maxEdgeId + 1)
    (noWrap : maxEdgeId < unsignedMax) :
    (labelComponent componentSearch smallComponentSize node).component.id =
      1 + componentSearch.getComponentID node.forwardSegmentId.id :=
  Nat.mod_eq_of_lt (by unfold unsignedMax at noWrap; omega)

/-- Every node gets its forward node's component, `1` up, and is tiny exactly when that
component has fewer than `small_component_size` nodes; both nodes of a segment lie in one
component, and two nodes share a component id exactly when their forward nodes are strongly
connected through the arcs the input stands for. -/
theorem findComponents_components (sorts : ∀ edges, (sortEdges edges).Perm edges)
    (noWrap : maxEdgeId < unsignedMax)
    (bounded : ∀ node ∈ inputNodes, node.forwardSegmentId.id ≤ maxEdgeId ∧
      (node.reverseSegmentId.enabled = true → node.reverseSegmentId.id ≤ maxEdgeId))
    (represents : (tarjanSCC (maxEdgeId + 1)
      (uncontractedEdges sortEdges inputEdgeList inputNodes)).Represents (maxEdgeId + 1)
        (uncontractedEdges sortEdges inputEdgeList inputNodes)) :
    (∀ node ∈ inputNodes, node.reverseSegmentId.enabled = true →
      (tarjanSCC (maxEdgeId + 1) (uncontractedEdges sortEdges inputEdgeList
        inputNodes)).getComponentID node.forwardSegmentId.id =
      (tarjanSCC (maxEdgeId + 1) (uncontractedEdges sortEdges inputEdgeList
        inputNodes)).getComponentID node.reverseSegmentId.id) ∧
    (findComponents sortEdges tarjanSCC smallComponentSize maxEdgeId inputEdgeList
        inputNodes).map (fun node => (node.forwardSegmentId, node.reverseSegmentId)) =
      inputNodes.map (fun node => (node.forwardSegmentId, node.reverseSegmentId)) ∧
    (∀ node ∈ findComponents sortEdges tarjanSCC smallComponentSize maxEdgeId inputEdgeList
        inputNodes, ∀ other ∈ findComponents sortEdges tarjanSCC smallComponentSize maxEdgeId
          inputEdgeList inputNodes,
      node.component.id = other.component.id ↔ StronglyConnected
        (InputArc inputEdgeList inputNodes) node.forwardSegmentId.id other.forwardSegmentId.id) ∧
    ∀ node ∈ findComponents sortEdges tarjanSCC smallComponentSize maxEdgeId inputEdgeList
        inputNodes, ∃ members : List Nat, members.Nodup ∧
      (∀ other, other ∈ members ↔ other ≤ maxEdgeId ∧
        StronglyConnected (InputArc inputEdgeList inputNodes) node.forwardSegmentId.id other) ∧
      (node.component.isTiny = true ↔ members.length < smallComponentSize) := by
  rw [ComponentSearch.Represents, arc_uncontractedEdges sorts] at represents
  have count : (maxEdgeId + 1) % 2 ^ 32 = maxEdgeId + 1 :=
    Nat.mod_eq_of_lt (by unfold unsignedMax at noWrap; omega)
  simp only [findComponents, count, List.map_map, List.mem_map]
  generalize tarjanSCC (maxEdgeId + 1) (uncontractedEdges sortEdges inputEdgeList inputNodes) =
    componentSearch at represents ⊢
  refine ⟨fun node member enabled => ?_, List.map_congr_left fun _ _ => rfl, ?_, ?_⟩
  · have inside := bounded node member
    have reverse := inside.2 enabled
    exact ((represents _ (by omega)).2.2 _ (by omega)).mpr
      ⟨.single (.toReverse member enabled), .single (.toForward member enabled)⟩
  · rintro _ ⟨node, member, rfl⟩ _ ⟨other, otherMember, rfl⟩
    have below := represents _ (Nat.lt_succ_of_le (bounded node member).1)
    have otherBelow := represents _ (Nat.lt_succ_of_le (bounded other otherMember).1)
    rw [labelComponent_id below.1 noWrap, labelComponent_id otherBelow.1 noWrap,
      Nat.add_left_cancel_iff]
    exact below.2.2 _ (Nat.lt_succ_of_le (bounded other otherMember).1)
  · rintro _ ⟨node, member, rfl⟩
    have below := represents _ (Nat.lt_succ_of_le (bounded node member).1)
    refine ⟨(List.range (maxEdgeId + 1)).filter fun other => componentSearch.getComponentID other =
      componentSearch.getComponentID node.forwardSegmentId.id, (List.nodup_range _).filter _,
      fun other => ?_, ?_⟩
    · simp only [List.mem_filter, List.mem_range, decide_eq_true_eq, Nat.lt_succ_iff]
      exact and_congr_right fun inside =>
        eq_comm.trans (below.2.2 other (Nat.lt_succ_of_le inside))
    · simp [labelComponent, below.2.1]

/-- The search on the graph of `twoWaySegment`: one component of two nodes. -/
def oneComponent : ComponentSearch := ⟨fun _ => 0, fun _ => 2⟩

theorem findComponents_components_twoWaySegment :
    (∀ edges : List InputEdge,
      (edges.insertionSort fun edge rhs => rhs.lt edge = false).Perm edges) ∧
    1 < unsignedMax ∧
    (∀ node ∈ twoWaySegment, node.forwardSegmentId.id ≤ 1 ∧
      (node.reverseSegmentId.enabled = true → node.reverseSegmentId.id ≤ 1)) ∧
    oneComponent.Represents (1 + 1) (uncontractedEdges
      (List.insertionSort fun edge rhs => rhs.lt edge = false) twoWayEdges twoWaySegment) ∧
    (∀ node ∈ twoWaySegment, node.reverseSegmentId.enabled = true →
      oneComponent.getComponentID node.forwardSegmentId.id =
        oneComponent.getComponentID node.reverseSegmentId.id) ∧
    (findComponents (List.insertionSort fun edge rhs => rhs.lt edge = false)
        (fun _ _ => oneComponent) 1000 1 twoWayEdges twoWaySegment).map
        (fun node => (node.forwardSegmentId, node.reverseSegmentId)) =
      twoWaySegment.map (fun node => (node.forwardSegmentId, node.reverseSegmentId)) ∧
    (∀ node ∈ findComponents (List.insertionSort fun edge rhs => rhs.lt edge = false)
        (fun _ _ => oneComponent) 1000 1 twoWayEdges twoWaySegment,
      ∀ other ∈ findComponents (List.insertionSort fun edge rhs => rhs.lt edge = false)
        (fun _ _ => oneComponent) 1000 1 twoWayEdges twoWaySegment,
      node.component.id = other.component.id ↔ StronglyConnected
        (InputArc twoWayEdges twoWaySegment) node.forwardSegmentId.id
          other.forwardSegmentId.id) ∧
    ∀ node ∈ findComponents (List.insertionSort fun edge rhs => rhs.lt edge = false)
        (fun _ _ => oneComponent) 1000 1 twoWayEdges twoWaySegment,
      ∃ members : List Nat, members.Nodup ∧
        (∀ other, other ∈ members ↔ other ≤ 1 ∧ StronglyConnected
          (InputArc twoWayEdges twoWaySegment) node.forwardSegmentId.id other) ∧
        (node.component.isTiny = true ↔ members.length < 1000) := by
  have sorts : ∀ edges : List InputEdge,
      (edges.insertionSort fun edge rhs => rhs.lt edge = false).Perm edges :=
    fun edges => (insertionSort_sorts_edges edges).1
  have forward : InputArc twoWayEdges twoWaySegment 0 1 :=
    @InputArc.forward twoWayEdges twoWaySegment ⟨0, 1, true, true⟩ (List.mem_singleton_self _) rfl
  have backward : InputArc twoWayEdges twoWaySegment 1 0 :=
    @InputArc.backward twoWayEdges twoWaySegment ⟨0, 1, true, true⟩ (List.mem_singleton_self _) rfl
  have connected : ∀ node other, node < 2 → other < 2 →
      StronglyConnected (InputArc twoWayEdges twoWaySegment) node other := by
    intro node other nodeBelow otherBelow
    rcases (by omega : node = 0 ∨ node = 1) with rfl | rfl <;>
      rcases (by omega : other = 0 ∨ other = 1) with rfl | rfl
    · exact ⟨.refl, .refl⟩
    · exact ⟨.single forward, .single backward⟩
    · exact ⟨.single backward, .single forward⟩
    · exact ⟨.refl, .refl⟩
  have represents : oneComponent.Represents (1 + 1) (uncontractedEdges
      (List.insertionSort fun edge rhs => rhs.lt edge = false) twoWayEdges twoWaySegment) := by
    rw [ComponentSearch.Represents, arc_uncontractedEdges sorts]
    exact fun node below => ⟨Nat.zero_lt_two, rfl, fun other otherBelow =>
      iff_of_true rfl (connected node other below otherBelow)⟩
  have bounded : ∀ node ∈ twoWaySegment, node.forwardSegmentId.id ≤ 1 ∧
      (node.reverseSegmentId.enabled = true → node.reverseSegmentId.id ≤ 1) := by decide
  exact ⟨sorts, by decide, bounded, represents,
    @findComponents_components _ (fun _ _ => oneComponent) 1000 1 twoWayEdges twoWaySegment sorts
      (by decide) bounded represents⟩

end Components

/-! ## `BuildRTree` -/

/-- The `util::exception` that `BuildRTree` throws when no edge-based node is a start point. -/
def noSnappableEdges : String :=
  "There are no snappable edges left after processing.  Are you setting travel modes " ++
    "correctly in the profile?  Cannot continue."

/-- How `BuildRTree` fails: dereferencing `in_iter` past the end (the `BOOST_ASSERT` that the
two vectors have one size), or the exception. -/
inductive RTreeError
  | readPastEnd (index : Nat)
  | exception (message : String)
  deriving DecidableEq, Repr

/-- The filter loop of `BuildRTree`, from `index` (where `in_iter` stands) with `out_iter` at
`out`: a start point is copied to `out_iter`. The vector and the final `out_iter`. -/
def filterStartpoints : List Bool → List EdgeBasedNode → Nat → Nat →
    Except RTreeError (List EdgeBasedNode × Nat)
  | [], nodes, _, out => .ok (nodes, out)
  | isStartpoint :: rest, nodes, index, out =>
    if isStartpoint then
      match nodes[index]? with
      | some node => filterStartpoints rest (nodes.set out node) (index + 1) (out + 1)
      | none => .error (.readPastEnd index)
    else filterStartpoints rest nodes (index + 1) out

/-- `Extractor::BuildRTree` up to the `util::StaticRTree` it builds: the edge-based nodes that
are handed to it. -/
def buildRTree (nodeBasedEdgeList : List EdgeBasedNode) (nodeIsStartpoint : List Bool) :
    Except RTreeError (List EdgeBasedNode) := do
  let (nodes, newSize) ← filterStartpoints nodeIsStartpoint nodeBasedEdgeList 0 0
  if newSize = 0 then .error (.exception noSnappableEdges)
  else .ok (nodes.take newSize)

/-- Copying the node at `in_iter` to `out_iter` moves it to the end of the kept prefix; what
stood between the two iterators keeps its length. -/
theorem set_between (kept middle pending : List EdgeBasedNode) (node : EdgeBasedNode) :
    ∃ middle' : List EdgeBasedNode, middle'.length = middle.length ∧
      (kept ++ middle ++ node :: pending).set kept.length node =
        kept ++ [node] ++ middle' ++ pending := by
  cases middle with
  | nil => exact ⟨[], rfl, by simp⟩
  | cons first rest => exact ⟨rest ++ [node], by simp, by simp⟩

/-- The loop invariant: the start points read so far stand at the front, in order, and the
nodes from `in_iter` on are untouched. -/
theorem filterStartpoints_eq : ∀ (nodeIsStartpoint : List Bool) (kept middle pending : List EdgeBasedNode),
    nodeIsStartpoint.length ≤ pending.length →
    ∃ middle' : List EdgeBasedNode,
      filterStartpoints nodeIsStartpoint (kept ++ middle ++ pending)
          (kept.length + middle.length) kept.length =
        .ok (kept ++ ((pending.zip nodeIsStartpoint).filter Prod.snd).map Prod.fst ++ middle' ++
            pending.drop nodeIsStartpoint.length,
          kept.length + (((pending.zip nodeIsStartpoint).filter Prod.snd).map Prod.fst).length)
  | [], kept, middle, pending, _ => ⟨middle, by simp [filterStartpoints]⟩
  | _ :: _, _, _, [], covered => absurd covered (by simp)
  | true :: rest, kept, middle, node :: pending, covered => by
    obtain ⟨middle', sameLength, moved⟩ := set_between kept middle pending node
    obtain ⟨middle'', loop⟩ := filterStartpoints_eq rest (kept ++ [node]) middle' pending
      (by simpa using covered)
    refine ⟨middle'', ?_⟩
    have read : (kept ++ middle ++ node :: pending)[kept.length + middle.length]? = some node := by
      rw [List.getElem?_append_right (by simp)]
      simp
    rw [filterStartpoints, if_pos rfl, read]
    simp only [moved]
    rw [show kept.length + middle.length + 1 = (kept ++ [node]).length + middle'.length by
      simp [sameLength]; omega, show kept.length + 1 = (kept ++ [node]).length by simp, loop]
    simp [Nat.add_assoc, Nat.add_comm]
  | false :: rest, kept, middle, node :: pending, covered => by
    obtain ⟨middle'', loop⟩ := filterStartpoints_eq rest kept (middle ++ [node]) pending
      (by simpa using covered)
    refine ⟨middle'', ?_⟩
    rw [filterStartpoints, if_neg Bool.false_ne_true,
      show kept ++ middle ++ node :: pending = kept ++ (middle ++ [node]) ++ pending by simp,
      show kept.length + middle.length + 1 = kept.length + (middle ++ [node]).length by
        simp [Nat.add_assoc], loop]
    simp

/-- `BuildRTree` hands on exactly the start points, in their order, and throws when there is
none, when no start point is marked past the last node. -/
theorem buildRTree_eq_filter (nodeBasedEdgeList : List EdgeBasedNode)
    (nodeIsStartpoint : List Bool) (covered : nodeIsStartpoint.length ≤ nodeBasedEdgeList.length) :
    buildRTree nodeBasedEdgeList nodeIsStartpoint =
      if ((nodeBasedEdgeList.zip nodeIsStartpoint).filter Prod.snd).map Prod.fst = [] then
        .error (.exception noSnappableEdges)
      else .ok (((nodeBasedEdgeList.zip nodeIsStartpoint).filter Prod.snd).map Prod.fst) := by
  obtain ⟨middle', loop⟩ := filterStartpoints_eq nodeIsStartpoint [] [] nodeBasedEdgeList covered
  simp only [List.nil_append, List.length_nil, Nat.zero_add] at loop
  rw [buildRTree, loop]
  by_cases none : ((nodeBasedEdgeList.zip nodeIsStartpoint).filter Prod.snd).map Prod.fst = []
  · simp [bind, Except.bind, none]
  · simp only [bind, Except.bind, List.length_eq_zero, if_neg none, List.append_assoc,
      List.take_left]

/-- The node of `twoWaySegment`, then the node of a one-way segment. -/
def startpointNodes : List EdgeBasedNode :=
  twoWaySegment ++ [⟨⟨2, true⟩, ⟨2, false⟩, ⟨0, false⟩⟩]

theorem buildRTree_eq_filter_oneWay :
    [false, true].length ≤ startpointNodes.length ∧
    buildRTree startpointNodes [false, true] =
      if ((startpointNodes.zip [false, true]).filter Prod.snd).map Prod.fst = [] then
        .error (.exception noSnappableEdges)
      else .ok (((startpointNodes.zip [false, true]).filter Prod.snd).map Prod.fst) :=
  ⟨by decide, buildRTree_eq_filter _ _ (by decide)⟩

example : buildRTree startpointNodes [false, true] = .ok [⟨⟨2, true⟩, ⟨2, false⟩, ⟨0, false⟩⟩] ∧
    buildRTree startpointNodes [false, false] = .error (.exception noSnappableEdges) :=
  ⟨rfl, rfl⟩

end Osrm.Extractor
