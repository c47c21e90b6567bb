import Mathlib.Data.List.GetD
import Mathlib.Order.MinMax

/-!
# Query graph, phantom nodes and search walks

`many_to_many.hpp` reads the contracted graph only through the data facade:
`GetAdjacentEdgeRange(node)`, `GetTarget(edge)` and the `distance`, `forward` and `backward`
fields of `GetEdgeData(edge)`. The facade is modelled as the adjacency array itself, one list of
stored edges per node in edge-id order. The fields of `EdgeData` the matrix search never reads
(edge id, shortcut flag) are left out.

A phantom node (`phantom_node.hpp:47-98`) contributes up to two seeds to a search: its forward and
reverse segment, each with its weight plus offset.

A stored edge `u → v` is read by the forward search when its `forward` flag is set and by the
backward search when its `backward` flag is set; both searches move from `u` to `v`. A search walk
is a chain of such reads. The road network itself has an arc `u → v` for a forward read and an
arc `v → u` for a backward read of the stored edge `u → v`.
-/

namespace Osrm.Engine

/-- Modelled from the spec: the sentinel maximum of the `i32` weights (§4.5 "unreachable cells
carry the sentinel maximum", §6 CH file layout), that is `INVALID_EDGE_WEIGHT`. -/
def invalidEdgeWeight : Int := 2147483647

/-- One stored edge as the search reads it: `GetTarget(edge)` and the fields of
`GetEdgeData(edge)` that `RelaxOutgoingEdges` and `StallAtNode` test. -/
structure QueryEdge where
  target : Nat
  distance : Int
  forward : Bool
  backward : Bool
  deriving DecidableEq, Repr

/-- The flag a search in `forwardDirection` tests: `data.forward` for the forward search and
`data.backward` for the backward one. `StallAtNode` tests the opposite flag. -/
def QueryEdge.directionFlag (edge : QueryEdge) (forwardDirection : Bool) : Bool :=
  if forwardDirection then edge.forward else edge.backward

@[simp] theorem QueryEdge.directionFlag_true (edge : QueryEdge) :
    edge.directionFlag true = edge.forward := rfl

@[simp] theorem QueryEdge.directionFlag_false (edge : QueryEdge) :
    edge.directionFlag false = edge.backward := rfl

/-- The facade's search graph as an adjacency array. Every target is a node of the graph and
every weight is positive, as `RelaxOutgoingEdges` asserts (`edge_weight > 0`). -/
structure QueryGraph where
  adjacency : List (List QueryEdge)
  target_lt : ∀ edges ∈ adjacency, ∀ edge ∈ edges, edge.target < adjacency.length
  distance_pos : ∀ edges ∈ adjacency, ∀ edge ∈ edges, 0 < edge.distance

namespace QueryGraph

variable (g : QueryGraph)

/-- `GetNumberOfNodes()`. -/
def getNumberOfNodes : Nat := g.adjacency.length

/-- The edges of `GetAdjacentEdgeRange(node)`, in edge-id order. -/
def adjacentEdges (node : Nat) : List QueryEdge := g.adjacency.getD node []

theorem target_lt_of_mem {node : Nat} {edge : QueryEdge} (member : edge ∈ g.adjacentEdges node) :
    edge.target < g.getNumberOfNodes := by
  unfold adjacentEdges at member
  rcases Nat.lt_or_ge node g.adjacency.length with inside | outside
  · rw [List.getD_eq_getElem _ _ inside] at member
    exact g.target_lt _ (List.getElem_mem inside) edge member
  · rw [List.getD_eq_default _ _ outside] at member
    cases member

theorem distance_pos_of_mem {node : Nat} {edge : QueryEdge}
    (member : edge ∈ g.adjacentEdges node) : 0 < edge.distance := by
  unfold adjacentEdges at member
  rcases Nat.lt_or_ge node g.adjacency.length with inside | outside
  · rw [List.getD_eq_getElem _ _ inside] at member
    exact g.distance_pos _ (List.getElem_mem inside) edge member
  · rw [List.getD_eq_default _ _ outside] at member
    cases member

/-- Modelled from the spec: `GetLoopWeight` of `routing_base.hpp`, "a loop weight for `n` (min of
any self-loop retaining direction)"; the least weight of a forward self-loop stored at `node`, and
`INVALID_EDGE_WEIGHT` when there is none. -/
def getLoopWeight (node : Nat) : Int :=
  (g.adjacentEdges node).foldl
    (fun loopWeight edge =>
      if edge.forward ∧ edge.target = node then min loopWeight edge.distance else loopWeight)
    invalidEdgeWeight

/-- A read of a stored edge at `u` towards `v` with weight `weight` by the search in
`forwardDirection`. -/
def SearchArc (forwardDirection : Bool) (u v : Nat) (weight : Int) : Prop :=
  ∃ edge ∈ g.adjacentEdges u, edge.target = v ∧ edge.directionFlag forwardDirection = true ∧
    edge.distance = weight

/-- A chain of search reads from `u` to `v` of total weight `weight`. -/
inductive SearchWalk (forwardDirection : Bool) : Nat → Nat → Int → Prop
  | nil (u : Nat) : SearchWalk forwardDirection u u 0
  | snoc {u v w : Nat} {weight step : Int} :
      SearchWalk forwardDirection u v weight → g.SearchArc forwardDirection v w step →
      SearchWalk forwardDirection u w (weight + step)

/-- An arc `u → v` of the road network: a forward read of a stored edge `u → v`, or a backward
read of a stored edge `v → u`. -/
def Arc (u v : Nat) (weight : Int) : Prop :=
  g.SearchArc true u v weight ∨ g.SearchArc false v u weight

/-- A walk `u → … → v` of the road network with total weight `weight`. -/
inductive Walk : Nat → Nat → Int → Prop
  | nil (u : Nat) : Walk u u 0
  | cons {u v w : Nat} {step weight : Int} :
      g.Arc u v step → Walk v w weight → Walk u w (step + weight)

variable {g}

theorem SearchArc.distance_pos {forwardDirection : Bool} {u v : Nat} {weight : Int}
    (arc : g.SearchArc forwardDirection u v weight) : 0 < weight := by
  obtain ⟨edge, member, -, -, rfl⟩ := arc
  exact g.distance_pos_of_mem member

theorem Arc.distance_pos {u v : Nat} {weight : Int} (arc : g.Arc u v weight) :
    0 < weight := by
  rcases arc with arc | arc <;> exact arc.distance_pos

theorem Walk.append {u v w : Nat} {first second : Int} (walk : g.Walk u v first)
    (rest : g.Walk v w second) : g.Walk u w (first + second) := by
  induction walk with
  | nil => simpa using rest
  | cons arc _ ih => simpa [Int.add_assoc] using Walk.cons arc (ih rest)

theorem Walk.snoc {u v w : Nat} {weight step : Int} (walk : g.Walk u v weight)
    (arc : g.Arc v w step) : g.Walk u w (weight + step) := by
  simpa using walk.append (Walk.cons arc (Walk.nil w))

theorem Walk.nonneg {u v : Nat} {weight : Int} (walk : g.Walk u v weight) :
    0 ≤ weight := by
  induction walk with
  | nil => exact le_refl 0
  | cons arc _ ih => have := arc.distance_pos; omega

/-- A forward search walk is a walk of the road network in the same direction. -/
theorem SearchWalk.toWalk_forward {u v : Nat} {weight : Int}
    (walk : g.SearchWalk true u v weight) : g.Walk u v weight := by
  induction walk with
  | nil => exact Walk.nil _
  | snoc _ arc ih => exact ih.snoc (Or.inl arc)

/-- A backward search walk from `u` to `v` is a walk of the road network from `v` back to `u`. -/
theorem SearchWalk.toWalk_backward {u v : Nat} {weight : Int}
    (walk : g.SearchWalk false u v weight) : g.Walk v u weight := by
  induction walk with
  | nil => exact Walk.nil _
  | snoc _ arc ih => simpa [Int.add_comm] using Walk.cons (Or.inr arc) ih

end QueryGraph

/-- `SegmentID`: an edge-based node id and whether the phantom may use it. -/
structure SegmentID where
  id : Nat
  enabled : Bool
  deriving DecidableEq, Repr

/-- The fields of `PhantomNode` that the matrix search reads. -/
structure PhantomNode where
  forwardSegmentId : SegmentID
  reverseSegmentId : SegmentID
  forwardWeight : Int
  reverseWeight : Int
  forwardOffset : Int
  reverseOffset : Int
  deriving DecidableEq, Repr

/-- `PhantomNode()`: both segments disabled. It stands for the element an out-of-range index
would read. -/
instance : Inhabited PhantomNode :=
  ⟨⟨⟨0, false⟩, ⟨0, false⟩, invalidEdgeWeight, invalidEdgeWeight, 0, 0⟩⟩

namespace PhantomNode

/-- `GetForwardWeightPlusOffset()`. -/
def getForwardWeightPlusOffset (phantom : PhantomNode) : Int :=
  phantom.forwardOffset + phantom.forwardWeight

/-- `GetReverseWeightPlusOffset()`. -/
def getReverseWeightPlusOffset (phantom : PhantomNode) : Int :=
  phantom.reverseOffset + phantom.reverseWeight

/-- The enabled segments of a phantom with their weight plus offset, forward first: the seeds
`search_target_phantom` inserts with these keys and `search_source_phantom` with their
negation. -/
def Seed (phantom : PhantomNode) (node : Nat) (weight : Int) : Prop :=
  (phantom.forwardSegmentId.enabled = true ∧ phantom.forwardSegmentId.id = node ∧
      phantom.getForwardWeightPlusOffset = weight) ∨
    (phantom.reverseSegmentId.enabled = true ∧ phantom.reverseSegmentId.id = node ∧
      phantom.getReverseWeightPlusOffset = weight)

end PhantomNode

end Osrm.Engine
