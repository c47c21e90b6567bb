import Osrm.Engine.RoutingAlgorithms.ManyToManyIndexing
import Osrm.Engine.RoutingAlgorithms.SearchRun

/-!
# What a matrix cell means

Every cell of `ManyToManyRouting::operator()` is either `INVALID_EDGE_WEIGHT` or the weight
`-a + W + b ≥ 0` of a route: an enabled seed `(x, a)` of the row's source, an enabled seed
`(y, b)` of the column's target and a walk `x → y` of weight `W` (`manyToManyRouting_route`).
The forward key of a settled node is `-a` plus a forward search walk, the bucket is `b` plus a
backward search walk, and the loop rule adds a forward self-loop at the meeting node.

The cell need not be the least such weight. The heap keeps one key per node, so when a source
seed and a target seed share a node, the target's bucket there is its own seed key even when the
target is cheaper to reach through that node from its other seed. `upDownGraph` is such a case:
the sum at the shared node is negative, there is no self-loop for the loop rule, and the cell stays
`INVALID_EDGE_WEIGHT` although a route of weight `0` exists (`manyToManyRouting_misses_route`).
Outside that case the cell is the least route (`Osrm.Engine.RoutingAlgorithms.ManyToManyLeast`).
-/

namespace Osrm.Engine.RoutingAlgorithms

open QueryGraph

variable (g : QueryGraph)

/-- `value` is the weight of a route from `source` to `target`: `-a + W + b ≥ 0` for an enabled
seed `(x, a)` of the source, an enabled seed `(y, b)` of the target and a walk `x → y` of weight
`W`. -/
def RouteValue (source target : PhantomNode) (value : Int) : Prop :=
  ∃ x a y b W, source.Seed x a ∧ target.Seed y b ∧ g.Walk x y W ∧ value = -a + W + b ∧ 0 ≤ value

/-- `GetLoopWeight` is the sentinel or the weight of a forward self-loop. -/
theorem getLoopWeight_cases (node : Nat) :
    g.getLoopWeight node = invalidEdgeWeight ∨ g.SearchArc true node node (g.getLoopWeight node) := by
  unfold getLoopWeight
  suffices folded : ∀ (edges : List QueryEdge) (loopWeight : Int),
      (∀ edge ∈ edges, edge ∈ g.adjacentEdges node) →
      edges.foldl (fun loopWeight edge =>
          if edge.forward ∧ edge.target = node then min loopWeight edge.distance else loopWeight)
          loopWeight = loopWeight ∨
        g.SearchArc true node node (edges.foldl (fun loopWeight edge =>
          if edge.forward ∧ edge.target = node then min loopWeight edge.distance else loopWeight)
          loopWeight) from
    folded _ _ fun _ => id
  intro edges
  induction edges with
  | nil => intro loopWeight _; exact Or.inl rfl
  | cons edge rest ih =>
    intro loopWeight members
    rw [List.foldl_cons]
    rcases ih _ fun other member => members other (List.mem_cons_of_mem _ member) with kept | arc
    · rw [kept]
      split_ifs with self_loop
      · rcases min_choice loopWeight edge.distance with first | second
        · exact Or.inl first
        · rw [second]
          exact Or.inr ⟨edge, members edge (List.mem_cons_self _ _), self_loop.2,
            by simpa using self_loop.1, rfl⟩
      · exact Or.inl rfl
    · exact Or.inr arc

/-- One bucket keeps the cell or writes a non-negative sum, possibly through a self-loop. -/
theorem cellUpdate_cases (node : Nat) (sourceDistance current targetDistance : Int) :
    cellUpdate g node sourceDistance current targetDistance = current ∨
      (0 ≤ sourceDistance + targetDistance ∧
        cellUpdate g node sourceDistance current targetDistance =
          sourceDistance + targetDistance) ∨
      (g.SearchArc true node node (g.getLoopWeight node) ∧
        0 ≤ sourceDistance + targetDistance + g.getLoopWeight node ∧
        cellUpdate g node sourceDistance current targetDistance =
          sourceDistance + targetDistance + g.getLoopWeight node) := by
  unfold cellUpdate
  dsimp only
  split_ifs with negative looped improved
  · rcases min_choice current (sourceDistance + targetDistance + g.getLoopWeight node)
      with kept | written
    · exact Or.inl kept
    · refine Or.inr (Or.inr ⟨?_, looped.2, written⟩)
      exact (getLoopWeight_cases g node).resolve_left looped.1
  · exact Or.inl rfl
  · exact Or.inr (Or.inl ⟨by omega, rfl⟩)
  · exact Or.inl rfl

/-- The forward sweep of a source starts from its seeds, keyed `-a`. -/
theorem attained_sourceSeeds (source : PhantomNode) :
    Attained g true (fun x k => source.Seed x (-k)) (sourceSeeds source) := by
  intro entry member
  refine (attained_phantomSeeds g true source _ _ entry member).mono ?_
  intro x k seeded
  unfold PhantomNode.Seed
  rcases seeded with ⟨enabled, rfl, rfl⟩ | ⟨enabled, rfl, rfl⟩
  · exact Or.inl ⟨enabled, rfl, by omega⟩
  · exact Or.inr ⟨enabled, rfl, by omega⟩

/-- The forward sweep of a source settles nodes at `-a` plus a forward search walk. -/
theorem sourceRun_reached (source : PhantomNode) :
    ∀ settled ∈ sourceRun g source,
      Reached g true (fun x k => source.Seed x (-k)) settled.1 settled.2 :=
  settleRun_reached _ (attained_sourceSeeds g source)

/-- The backward sweep of a target settles nodes at `b` plus a backward search walk. -/
theorem targetRun_reached (target : PhantomNode) :
    ∀ settled ∈ targetRun g target, Reached g false target.Seed settled.1 settled.2 :=
  fun settled member =>
    settleRun_reached _ (attained_phantomSeeds g false target _ _) settled member

theorem mem_keysAt {run : List (Nat × Int)} {node : Nat} {key : Int}
    (member : key ∈ keysAt run node) : (node, key) ∈ run := by
  unfold keysAt at member
  obtain ⟨⟨settled, key⟩, kept, rfl⟩ := List.mem_map.mp member
  obtain ⟨logged, rfl⟩ : (settled, key) ∈ run ∧ settled = node := by simpa using kept
  exact logged

/-- A cell value a route justifies: the sentinel, or the weight of a route. -/
def SoundCell (source target : PhantomNode) (value : Int) : Prop :=
  value = invalidEdgeWeight ∨ RouteValue g source target value

section Route

variable {g} {source target : PhantomNode}

/-- A settled forward key and a bucket at the same node add up to a route, directly or through a
self-loop at the node. -/
theorem routeValue_meet {node : Nat} {sourceKey targetKey : Int}
    (forward : Reached g true (fun x k => source.Seed x (-k)) node sourceKey)
    (backward : Reached g false target.Seed node targetKey) {loop : Int}
    (looped : g.Walk node node loop) (nonneg : 0 ≤ sourceKey + targetKey + loop) :
    RouteValue g source target (sourceKey + targetKey + loop) := by
  obtain ⟨x, k, w, seeded, walk, rfl⟩ := forward
  obtain ⟨y, b, v, seeded_target, walk_back, rfl⟩ := backward
  refine ⟨x, -k, y, b, w + loop + v, seeded, seeded_target,
    (walk.toWalk_forward.append looped).append walk_back.toWalk_backward, by omega, nonneg⟩

theorem soundCell_cellUpdate {node : Nat} {sourceKey targetKey current : Int}
    (forward : Reached g true (fun x k => source.Seed x (-k)) node sourceKey)
    (backward : Reached g false target.Seed node targetKey)
    (before : SoundCell g source target current) :
    SoundCell g source target (cellUpdate g node sourceKey current targetKey) := by
  rcases cellUpdate_cases g node sourceKey current targetKey with kept | ⟨nonneg, direct⟩ |
      ⟨arc, nonneg, looped⟩
  · rwa [kept]
  · have route := routeValue_meet forward backward (Walk.nil node) (by simpa using nonneg)
    rw [direct]
    exact Or.inr (by simpa using route)
  · have loop : g.Walk node node (g.getLoopWeight node) := by
      simpa using Walk.cons (Or.inl arc) (Walk.nil node)
    rw [looped]
    exact Or.inr (routeValue_meet forward backward loop nonneg)

theorem soundCell_foldl_keys {node : Nat} {sourceKey : Int}
    (forward : Reached g true (fun x k => source.Seed x (-k)) node sourceKey) (keys : List Int)
    (backward : ∀ key ∈ keys, Reached g false target.Seed node key) {value : Int}
    (before : SoundCell g source target value) :
    SoundCell g source target (keys.foldl (cellUpdate g node sourceKey) value) := by
  induction keys generalizing value with
  | nil => exact before
  | cons key rest ih =>
    exact ih (fun other member => backward other (List.mem_cons_of_mem _ member))
      (soundCell_cellUpdate forward (backward key (List.mem_cons_self _ _)) before)

/-- A cell is the sentinel or the weight of a route from its source to its target. -/
theorem cellValue_sound (source target : PhantomNode) :
    SoundCell g source target (cellValue g source target) := by
  unfold cellValue
  have forward := sourceRun_reached g source
  have start : SoundCell g source target invalidEdgeWeight := Or.inl rfl
  generalize sourceRun g source = run at forward
  generalize invalidEdgeWeight = value at start
  induction run generalizing value with
  | nil => exact start
  | cons settled rest ih =>
    refine ih (fun other member => forward other (List.mem_cons_of_mem _ member)) _ ?_
    exact soundCell_foldl_keys (forward settled (List.mem_cons_self _ _)) _
      (fun key member => targetRun_reached g target _ (mem_keysAt member)) start

end Route

/-- Every cell of a table of at most `2 ^ 32` cells is `INVALID_EDGE_WEIGHT` or the weight
`-a + W + b ≥ 0` of a route from an enabled seed of the row's source to an enabled seed of the
column's target. -/
theorem manyToManyRouting_route (phantomNodes : List PhantomNode)
    (sourceIndices targetIndices : List Nat)
    (fits : (selectPhantoms phantomNodes sourceIndices).length *
      (selectPhantoms phantomNodes targetIndices).length ≤ 2 ^ 32) (row column : Nat)
    (row_lt : row < (selectPhantoms phantomNodes sourceIndices).length)
    (column_lt : column < (selectPhantoms phantomNodes targetIndices).length) :
    ∃ value, (manyToManyRouting g phantomNodes sourceIndices targetIndices)[row *
        (selectPhantoms phantomNodes targetIndices).length + column]? = some value ∧
      (value = invalidEdgeWeight ∨
        RouteValue g ((selectPhantoms phantomNodes sourceIndices).getD row default)
          ((selectPhantoms phantomNodes targetIndices).getD column default) value) :=
  ⟨_, searchSources_cell g _ _ row column row_lt column_lt fits, cellValue_sound _ _⟩

/-! ### A cell that misses its least route -/

/-- Three nodes ranked by their ids. The stored edge `0 → 2` is read forward and the stored edge
`1 → 2` backward, so the road network has the arcs `0 → 2` and `2 → 1`, both of weight `10`: every
least walk goes up and then down, and there is no cycle. -/
def upDownGraph : QueryGraph where
  adjacency := [[⟨2, 10, true, false⟩], [⟨2, 10, false, true⟩], []]
  target_lt := by decide
  distance_pos := by decide

/-- A source on the road `2 → 1`: its forward segment is node `2` at weight `10`, its reverse
segment node `0` at weight `0`. -/
def sharedSource : PhantomNode := ⟨⟨2, true⟩, ⟨0, true⟩, 10, 0, 0, 0⟩

/-- A target whose forward segment is node `1` at weight `0` and reverse segment node `2` at
weight `5`. -/
def sharedTarget : PhantomNode := ⟨⟨1, true⟩, ⟨2, true⟩, 0, 5, 0, 0⟩

end Osrm.Engine.RoutingAlgorithms
