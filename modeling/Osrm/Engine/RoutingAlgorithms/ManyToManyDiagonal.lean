import Osrm.Engine.RoutingAlgorithms.ManyToManyRoutes
import Osrm.Engine.RoutingAlgorithms.SettleOrder

/-!
# The diagonal of a matrix over one phantom list

`ManyToManyRouting(P, [], [])` pairs every phantom with itself. On a graph whose stored edges all
go up in some rank, with no witness search or shortest-path property assumed, no cell is negative,
and the cell of a phantom and itself is `0` when the table has at most `2 ^ 32` cells
(`manyToManyRouting_diagonal`). Beyond that the `unsigned` cell index wraps, and the diagonal cell
of the last of `65537` phantoms is never written (`manyToManyRouting_diagonal_wraps`).

The `0` comes from the phantom's lowest seed `(ℓ, a)`, the enabled segment of least rank. Every
search walk goes up, so no walk from a seed ends at `ℓ` but the empty one: both sweeps settle `ℓ`
(`settleRun_settles`) at its seed key, `-a` forward and `a` backward, and the bucket loop at `ℓ`
meets the sum `-a + a = 0`. Every other bucket writes a non-negative value or nothing
(`cellValue_sound`), and no bucket raises a cell (`cellUpdate_le`), so the cell ends at `0`. A
phantom with both segments enabled may relax one seed into the other and push a sum below zero;
the loop rule then writes a non-negative value or nothing, never below `0`.
-/

namespace Osrm.Engine.RoutingAlgorithms

open QueryGraph

variable (g : QueryGraph)

/-! ### A bucket never raises a cell -/

theorem cellUpdate_le (node : Nat) (sourceDistance current targetDistance : Int) :
    cellUpdate g node sourceDistance current targetDistance ≤ current := by
  unfold cellUpdate
  dsimp only
  split_ifs <;> omega

theorem cellUpdate_le_sum (node : Nat) (sourceDistance current targetDistance : Int)
    (nonneg : 0 ≤ sourceDistance + targetDistance) :
    cellUpdate g node sourceDistance current targetDistance ≤ sourceDistance + targetDistance := by
  unfold cellUpdate
  dsimp only
  split_ifs <;> omega

theorem foldl_le_self {α : Type} (f : Int → α → Int) (lowers : ∀ value item, f value item ≤ value)
    (items : List α) (value : Int) : items.foldl f value ≤ value := by
  induction items generalizing value with
  | nil => exact le_refl _
  | cons item rest ih => exact le_trans (ih _) (lowers value item)

/-- A fold of steps that never raise the value ends at most at what any one of its steps
reaches. -/
theorem foldl_le_of_mem {α : Type} (f : Int → α → Int) (lowers : ∀ value item, f value item ≤ value)
    {items : List α} {item : α} (member : item ∈ items) {bound : Int}
    (reaches : ∀ value, f value item ≤ bound) (value : Int) : items.foldl f value ≤ bound := by
  induction items generalizing value with
  | nil => cases member
  | cons first rest ih =>
    rw [List.foldl_cons]
    rcases List.mem_cons.mp member with rfl | later
    · exact le_trans (foldl_le_self f lowers rest _) (reaches value)
    · exact ih later _

theorem mem_keysAt_of_mem {run : List (Nat × Int)} {node : Nat} {key : Int}
    (member : (node, key) ∈ run) : key ∈ keysAt run node :=
  List.mem_map.mpr ⟨(node, key), List.mem_filter.mpr ⟨member, by simp⟩, rfl⟩

/-- A cell is at most any non-negative sum of a settled forward key and a bucket at its node. -/
theorem cellValue_le_meet {source target : PhantomNode} {node : Nat} {sourceKey targetKey : Int}
    (settled : (node, sourceKey) ∈ sourceRun g source)
    (bucket : (node, targetKey) ∈ targetRun g target) (nonneg : 0 ≤ sourceKey + targetKey) :
    cellValue g source target ≤ sourceKey + targetKey := by
  unfold cellValue
  refine foldl_le_of_mem _ (fun value settled => foldl_le_self _ (cellUpdate_le g _ _) _ value)
    settled (fun value => ?_) _
  exact foldl_le_of_mem _ (cellUpdate_le g node sourceKey) (mem_keysAt_of_mem bucket)
    (fun current => cellUpdate_le_sum g node sourceKey current targetKey nonneg) value

/-- A bucket keeps a non-negative cell non-negative. -/
theorem cellUpdate_nonneg (node : Nat) (sourceDistance targetDistance : Int) {current : Int}
    (nonneg : 0 ≤ current) : 0 ≤ cellUpdate g node sourceDistance current targetDistance := by
  unfold cellUpdate
  dsimp only
  split_ifs <;> omega

theorem foldl_nonneg {α : Type} (f : Int → α → Int) (keeps : ∀ value item, 0 ≤ value → 0 ≤ f value item)
    (items : List α) {value : Int} (nonneg : 0 ≤ value) : 0 ≤ items.foldl f value := by
  induction items generalizing value with
  | nil => exact nonneg
  | cons item rest ih => exact ih (keeps value item nonneg)

theorem rowCell_nonneg (numberOfTargets : Nat) (buckets : SearchSpaceWithBuckets)
    (rowIdx : Nat) (run : List (Nat × Int)) (index : Nat) {value : Int} (nonneg : 0 ≤ value) :
    0 ≤ rowCell g numberOfTargets buckets rowIdx run index value := by
  unfold rowCell
  exact foldl_nonneg _ (fun _ settled before => foldl_nonneg _
    (fun _ key => cellUpdate_nonneg g settled.1 settled.2 key) _ before) run nonneg

/-- Whatever cell the buckets write, they keep it non-negative, wrapped or not. -/
theorem rowsCell_nonneg (numberOfTargets : Nat) (buckets : SearchSpaceWithBuckets)
    (sources : List PhantomNode) (rowIdx index : Nat) {value : Int} (nonneg : 0 ≤ value) :
    0 ≤ rowsCell g numberOfTargets buckets rowIdx sources index value := by
  induction sources generalizing rowIdx value with
  | nil => exact nonneg
  | cons source rest ih =>
    rw [rowsCell]
    exact ih _ (rowCell_nonneg g _ _ _ _ _ nonneg)

theorem cellValue_nonneg (source target : PhantomNode) : 0 ≤ cellValue g source target := by
  rcases cellValue_sound source target with sentinel | ⟨-, -, -, -, -, -, -, -, -, nonneg⟩
  · rw [sentinel]
    decide
  · exact nonneg

/-! ### The lowest seed of a phantom -/

/-- Both sweeps of a phantom settle each of its seeds. -/
theorem phantomSeeds_settled (forwardDirection : Bool) {phantom : PhantomNode}
    (forwardKey reverseKey : Int) {node : Nat} {weight : Int} (seeded : phantom.Seed node weight) :
    ∃ key, (node, key) ∈
      (settleRun g forwardDirection (sweepFuel g) (phantomSeeds phantom forwardKey reverseKey)).1 := by
  refine settleRun_settles g _ _ ?_ (settleRun_sweepFuel g _ _ _ _) ?_
  · intro entry member
    rw [phantomSeeds_eq_seedHeap, seedHeap_insertedNodes] at member
    obtain ⟨seed, -, rfl⟩ := List.mem_map.mp member
    rfl
  · rw [phantomSeeds_eq_seedHeap]
    rcases seeded with ⟨enabled, rfl, -⟩ | ⟨enabled, rfl, -⟩
    · exact QueryHeap.wasInserted_of_mem (show (⟨_, forwardKey, false⟩ : HeapNode) ∈ _ by
        rw [seedHeap_insertedNodes]; simp [enabled])
    · exact QueryHeap.wasInserted_of_mem (show (⟨_, reverseKey, false⟩ : HeapNode) ∈ _ by
        rw [seedHeap_insertedNodes]; simp [enabled])

/-- A phantom with an enabled segment, whose two ids differ when both are enabled, has a seed
that no seed of it outranks, and that seed has a single key. -/
theorem PhantomNode.exists_lowest (rank : Nat → Nat) {phantom : PhantomNode}
    (enabled : phantom.forwardSegmentId.enabled = true ∨ phantom.reverseSegmentId.enabled = true)
    (distinct : phantom.forwardSegmentId.enabled = true → phantom.reverseSegmentId.enabled = true →
      phantom.forwardSegmentId.id ≠ phantom.reverseSegmentId.id) :
    ∃ node weight, phantom.Seed node weight ∧ (∀ x k, phantom.Seed x k → rank node ≤ rank x) ∧
      ∀ k, phantom.Seed node k → k = weight := by
  unfold PhantomNode.Seed
  by_cases forward : phantom.forwardSegmentId.enabled = true
  · by_cases reverse : phantom.reverseSegmentId.enabled = true
    · have different := distinct forward reverse
      rcases le_total (rank phantom.forwardSegmentId.id) (rank phantom.reverseSegmentId.id)
        with forward_le | reverse_le
      · refine ⟨_, _, Or.inl ⟨forward, rfl, rfl⟩, ?_, ?_⟩
        · rintro x k (⟨-, rfl, -⟩ | ⟨-, rfl, -⟩)
          · exact le_refl _
          · exact forward_le
        · rintro k (⟨-, -, rfl⟩ | ⟨-, same, -⟩)
          · rfl
          · exact absurd same.symm different
      · refine ⟨_, _, Or.inr ⟨reverse, rfl, rfl⟩, ?_, ?_⟩
        · rintro x k (⟨-, rfl, -⟩ | ⟨-, rfl, -⟩)
          · exact reverse_le
          · exact le_refl _
        · rintro k (⟨-, same, -⟩ | ⟨-, -, rfl⟩)
          · exact absurd same different
          · rfl
    · refine ⟨_, _, Or.inl ⟨forward, rfl, rfl⟩, ?_, ?_⟩
      · rintro x k (⟨-, rfl, -⟩ | ⟨enabled, -, -⟩)
        · exact le_refl _
        · exact absurd enabled reverse
      · rintro k (⟨-, -, rfl⟩ | ⟨enabled, -, -⟩)
        · rfl
        · exact absurd enabled reverse
  · have reverse := enabled.resolve_left forward
    refine ⟨_, _, Or.inr ⟨reverse, rfl, rfl⟩, ?_, ?_⟩
    · rintro x k (⟨enabled, -, -⟩ | ⟨-, rfl, -⟩)
      · exact absurd enabled forward
      · exact le_refl _
    · rintro k (⟨enabled, -, -⟩ | ⟨-, -, rfl⟩)
      · exact absurd enabled forward
      · rfl

section Upward

variable {g} {rank : Nat → Nat}
  (upward : ∀ node, ∀ edge ∈ g.adjacentEdges node, rank node < rank edge.target)
include upward

/-- On a graph whose stored edges go up in rank, a search walk is empty or ends higher than it
starts. -/
theorem searchWalk_rank_lt {forwardDirection : Bool} {x y : Nat} {weight : Int}
    (walk : g.SearchWalk forwardDirection x y weight) : (x = y ∧ weight = 0) ∨ rank x < rank y := by
  induction walk with
  | nil => exact Or.inl ⟨rfl, rfl⟩
  | snoc _ arc ih =>
    obtain ⟨edge, member, rfl, -, -⟩ := arc
    rcases ih with ⟨rfl, -⟩ | lower
    · exact Or.inr (upward _ edge member)
    · exact Or.inr (lt_trans lower (upward _ edge member))

/-- A node that no seed outranks is reached only as that seed, with its own key. -/
theorem reached_eq_of_lowest {forwardDirection : Bool} {seed : Nat → Int → Prop} {node : Nat}
    {weight key : Int} (lowest : ∀ x k, seed x k → rank node ≤ rank x)
    (unique : ∀ k, seed node k → k = weight) (reached : Reached g forwardDirection seed node key) :
    key = weight := by
  obtain ⟨x, k, w, seeded, walk, rfl⟩ := reached
  rcases searchWalk_rank_lt upward walk with ⟨rfl, rfl⟩ | higher
  · rw [unique k seeded, Int.add_zero]
  · exact absurd (lowest x k seeded) (by omega)

/-- The cell of a phantom and itself is `0`. -/
theorem cellValue_self {phantom : PhantomNode}
    (enabled : phantom.forwardSegmentId.enabled = true ∨ phantom.reverseSegmentId.enabled = true)
    (distinct : phantom.forwardSegmentId.enabled = true → phantom.reverseSegmentId.enabled = true →
      phantom.forwardSegmentId.id ≠ phantom.reverseSegmentId.id) :
    cellValue g phantom phantom = 0 := by
  obtain ⟨node, weight, seeded, lowest, unique⟩ := PhantomNode.exists_lowest rank enabled distinct
  obtain ⟨sourceKey, settled⟩ : ∃ key, (node, key) ∈ sourceRun g phantom :=
    phantomSeeds_settled g true _ _ seeded
  obtain ⟨targetKey, bucket⟩ : ∃ key, (node, key) ∈ targetRun g phantom :=
    phantomSeeds_settled g false _ _ seeded
  have source_key : sourceKey = -weight :=
    reached_eq_of_lowest upward (fun x k seeded => lowest x (-k) seeded)
      (fun k seeded => by rw [← unique (-k) seeded, Int.neg_neg])
      (sourceRun_reached g phantom _ settled)
  have target_key : targetKey = weight :=
    reached_eq_of_lowest upward lowest unique (targetRun_reached g phantom _ bucket)
  have upper := cellValue_le_meet g settled bucket (by omega)
  have lower := cellValue_nonneg g phantom phantom
  omega

end Upward

/-- With no index lists, the table is the searches over the phantom list itself. -/
theorem manyToManyRouting_all (phantomNodes : List PhantomNode) :
    manyToManyRouting g phantomNodes [] [] =
      searchSources g phantomNodes.length
        (searchTargets g 0 phantomNodes SearchSpaceWithBuckets.empty) 0 phantomNodes
        (List.replicate (phantomNodes.length * phantomNodes.length) invalidEdgeWeight) :=
  rfl

/-- On a graph whose stored edges go up in some rank, the table of a phantom list against itself
has no negative entry, and `0` on its diagonal when it has at most `2 ^ 32` cells, when every
phantom has an enabled segment and distinct ids for its two segments. -/
theorem manyToManyRouting_diagonal (rank : Nat → Nat)
    (upward : ∀ node, ∀ edge ∈ g.adjacentEdges node, rank node < rank edge.target)
    (phantomNodes : List PhantomNode)
    (enabled : ∀ phantom ∈ phantomNodes,
      phantom.forwardSegmentId.enabled = true ∨ phantom.reverseSegmentId.enabled = true)
    (distinct : ∀ phantom ∈ phantomNodes, phantom.forwardSegmentId.enabled = true →
      phantom.reverseSegmentId.enabled = true →
        phantom.forwardSegmentId.id ≠ phantom.reverseSegmentId.id) :
    (phantomNodes.length * phantomNodes.length ≤ 2 ^ 32 → ∀ i < phantomNodes.length,
      (manyToManyRouting g phantomNodes [] [])[i * phantomNodes.length + i]? = some 0) ∧
    ∀ value ∈ manyToManyRouting g phantomNodes [] [], 0 ≤ value := by
  constructor
  · intro fits i inside
    have member : phantomNodes.getD i default ∈ phantomNodes := by
      rw [List.getD_eq_getElem _ _ inside]
      exact List.getElem_mem inside
    rw [manyToManyRouting_all, searchSources_cell g _ _ i i inside inside fits,
      cellValue_self upward (enabled _ member) (distinct _ member)]
  · intro value member
    obtain ⟨index, found⟩ := List.mem_iff_getElem?.mp member
    rw [manyToManyRouting_all, searchSources_getElem?, List.getElem?_replicate] at found
    split_ifs at found
    · rw [Option.map_some', Option.some.injEq] at found
      rw [← found]
      exact rowsCell_nonneg g _ _ _ _ _ (by decide)
    · cases found

/-- `oneEdgeGraph` goes up in node id. -/
theorem oneEdgeGraph_upward : ∀ node, ∀ edge ∈ oneEdgeGraph.adjacentEdges node, id node < id edge.target
  | 0 => by simp [oneEdgeGraph, QueryGraph.adjacentEdges]
  | node + 1 => by cases node <;> simp [oneEdgeGraph, QueryGraph.adjacentEdges]

theorem manyToManyRouting_diagonal_oneEdgeGraph :
    (∀ node, ∀ edge ∈ oneEdgeGraph.adjacentEdges node, id node < id edge.target) ∧
      (∀ phantom ∈ [bidirectedPhantom, forwardPhantom],
        phantom.forwardSegmentId.enabled = true ∨ phantom.reverseSegmentId.enabled = true) ∧
      (∀ phantom ∈ [bidirectedPhantom, forwardPhantom], phantom.forwardSegmentId.enabled = true →
        phantom.reverseSegmentId.enabled = true →
          phantom.forwardSegmentId.id ≠ phantom.reverseSegmentId.id) ∧
      ([bidirectedPhantom, forwardPhantom].length * [bidirectedPhantom, forwardPhantom].length ≤
          2 ^ 32 → ∀ i < [bidirectedPhantom, forwardPhantom].length,
        (manyToManyRouting oneEdgeGraph [bidirectedPhantom, forwardPhantom] [] [])[i *
          [bidirectedPhantom, forwardPhantom].length + i]? = some 0) ∧
      ∀ value ∈ manyToManyRouting oneEdgeGraph [bidirectedPhantom, forwardPhantom] [] [],
        0 ≤ value :=
  ⟨oneEdgeGraph_upward, by decide, by decide,
    manyToManyRouting_diagonal oneEdgeGraph id oneEdgeGraph_upward _ (by decide) (by decide)⟩

/-- With `65537` copies of one phantom the table has more than `2 ^ 32` cells, and the diagonal
cell of the last copy, `65536 * 65537 + 65536`, keeps `INVALID_EDGE_WEIGHT`: its writes land at
`131072`. -/
theorem manyToManyRouting_diagonal_wraps :
    (∀ node, ∀ edge ∈ oneEdgeGraph.adjacentEdges node, id node < id edge.target) ∧
      (∀ phantom ∈ List.replicate 65537 bidirectedPhantom,
        phantom.forwardSegmentId.enabled = true ∨ phantom.reverseSegmentId.enabled = true) ∧
      (∀ phantom ∈ List.replicate 65537 bidirectedPhantom, phantom.forwardSegmentId.enabled = true →
        phantom.reverseSegmentId.enabled = true →
          phantom.forwardSegmentId.id ≠ phantom.reverseSegmentId.id) ∧
      65536 < (List.replicate 65537 bidirectedPhantom).length ∧
      (manyToManyRouting oneEdgeGraph (List.replicate 65537 bidirectedPhantom) [] [])[65536 *
          (List.replicate 65537 bidirectedPhantom).length + 65536]? = some invalidEdgeWeight := by
  have all : selectPhantoms (List.replicate 65537 bidirectedPhantom) [] =
      List.replicate 65537 bidirectedPhantom := rfl
  refine ⟨oneEdgeGraph_upward, fun phantom member => ?_, fun phantom member => ?_,
    by rw [List.length_replicate]; decide, @manyToManyRouting_wrapped oneEdgeGraph _ [] []
      (65536 * (List.replicate 65537 bidirectedPhantom).length + 65536)
      (by rw [List.length_replicate]; decide) (by rw [all, List.length_replicate]; decide)⟩
  · rw [List.eq_of_mem_replicate member]
    exact Or.inl rfl
  · rw [List.eq_of_mem_replicate member]
    decide

end Osrm.Engine.RoutingAlgorithms
