import Osrm.Engine.RoutingAlgorithms.ManyToManyDiagonal
import Osrm.Engine.RoutingAlgorithms.SettleKeys
import Mathlib.Data.Int.LeastGreatest

/-!
# A matrix cell is the least route

On a contraction hierarchy `ManyToManyRouting::operator()` finds least routes
(`manyToManyRouting_least`): every cell of a table of at most `2 ^ 32` cells is
`INVALID_EDGE_WEIGHT` or the weight of a route (`cellValue_sound`), and it is at most the weight of
every route from the row's source to the column's target, when

* every walk between two distinct nodes is matched, no heavier, by a forward search walk and a
  backward search walk meeting at one node (`UpDown`, the shortest-path property of the
  hierarchy);
* every phantom's seeds lie on nodes of the graph, have distinct ids and weigh at least `0` and at
  most every arc leaving their node (`SeedsBounded`);
* the source and the target share no node at which their seeds sum below zero
  (`NegativeMeet`).

Take a least route (`exists_least_routeValue`). Its up-down walk meets at a node `m`. Since the
route is least, `-a` plus the upward walk is below every road walk from a source seed to `m`, and
`b` plus the downward walk below every road walk from `m` to a target seed, so both sweeps settle
`m` at exactly those keys (`settleRun_exact`), and the bucket loop at `m` writes their sum
(`cellValue_le_meet`).

The bounds on the seeds make every route weight non-negative but the empty walk at a node both
phantoms seed (`routeSum_nonneg`). That is `NegativeMeet`, where the heap's one key per node makes
the cell miss its least route (`manyToManyRouting_misses_route`).
-/

namespace Osrm.Engine.RoutingAlgorithms

open QueryGraph

variable (g : QueryGraph)

/-- Every walk between two distinct nodes is matched, no heavier, by a forward search walk from
its start and a backward search walk from its end that meet at one node. -/
def UpDown : Prop :=
  ∀ x y W, x ≠ y → g.Walk x y W →
    ∃ m up down, g.SearchWalk true x m up ∧ g.SearchWalk false y m down ∧ up + down ≤ W

/-- The seeds of a phantom have distinct ids, lie on nodes of the graph and weigh at least `0` and
at most every arc leaving their node. -/
structure SeedsBounded (phantom : PhantomNode) : Prop where
  distinct : phantom.forwardSegmentId.enabled = true → phantom.reverseSegmentId.enabled = true →
    phantom.forwardSegmentId.id ≠ phantom.reverseSegmentId.id
  inside : ∀ x a, phantom.Seed x a → x < g.getNumberOfNodes
  nonneg : ∀ x a, phantom.Seed x a → 0 ≤ a
  le_arc : ∀ x a, phantom.Seed x a → ∀ v w, g.Arc x v w → a ≤ w

/-- A seed `(x, a)` of the source and a seed `(x, b)` of the target on one node, with
`-a + b < 0`. -/
def NegativeMeet (source target : PhantomNode) : Prop :=
  ∃ x a b, source.Seed x a ∧ target.Seed x b ∧ b < a

theorem seedsBounded_default : SeedsBounded g default where
  distinct := fun enabled => absurd enabled (by decide)
  inside := fun _ _ seeded => by rcases seeded with ⟨enabled, -⟩ | ⟨enabled, -⟩ <;> cases enabled
  nonneg := fun _ _ seeded => by rcases seeded with ⟨enabled, -⟩ | ⟨enabled, -⟩ <;> cases enabled
  le_arc := fun _ _ seeded => by rcases seeded with ⟨enabled, -⟩ | ⟨enabled, -⟩ <;> cases enabled

/-! ### Route weights -/

theorem exists_least_routeValue {source target : PhantomNode} {route : Int}
    (found : RouteValue g source target route) :
    ∃ least, RouteValue g source target least ∧
      ∀ other, RouteValue g source target other → least ≤ other :=
  Int.exists_least_of_bdd ⟨0, fun _ ⟨_, _, _, _, _, _, _, _, _, nonneg⟩ => nonneg⟩ ⟨route, found⟩

section Bounded

variable {g} {source target : PhantomNode} (sourceBounded : SeedsBounded g source)
  (targetBounded : SeedsBounded g target) (meets : ¬ NegativeMeet source target)
include sourceBounded targetBounded meets

/-- A route leaves its source seed along an arc no lighter than the seed, or it is the empty walk
at a node both phantoms seed. -/
theorem routeSum_nonneg {x y : Nat} {a b W : Int} (sourceSeed : source.Seed x a)
    (targetSeed : target.Seed y b) (walk : g.Walk x y W) : 0 ≤ -a + W + b := by
  cases walk with
  | nil =>
    have := not_lt.mp fun lower => meets ⟨x, a, b, sourceSeed, targetSeed, lower⟩
    omega
  | cons arc rest =>
    have := sourceBounded.le_arc x a sourceSeed _ _ arc
    have := rest.nonneg
    have := targetBounded.nonneg y b targetSeed
    omega

end Bounded

/-! ### Sweeps from bounded seeds -/

theorem seedHeap_key {seeds : List (Nat × Int)} (distinct : (seeds.map (·.1)).Nodup) {x : Nat}
    {k : Int} (member : (x, k) ∈ seeds) :
    (seedHeap seeds).wasInserted x = true ∧ (seedHeap seeds).getKey x = k := by
  have entry : (⟨x, k, false⟩ : HeapNode) ∈ (seedHeap seeds).insertedNodes := by
    rw [seedHeap_insertedNodes]
    exact List.mem_map_of_mem _ member
  have nodes : ((seedHeap seeds).insertedNodes.map (·.node)).Nodup := by
    rw [seedHeap_insertedNodes, List.map_map]
    exact distinct
  exact ⟨QueryHeap.wasInserted_of_mem entry, QueryHeap.getKey_of_mem nodes entry⟩

section Start

variable {g} {phantom : PhantomNode} (bounded : SeedsBounded g phantom)
include bounded

theorem phantomSeeds_seedHeap (forwardKey reverseKey : Int) :
    ∃ seeds : List (Nat × Int), phantomSeeds phantom forwardKey reverseKey = seedHeap seeds ∧
      (seeds.map (·.1)).Nodup ∧ (∀ seed ∈ seeds, seed.1 < g.getNumberOfNodes) ∧
      ∀ x k, (phantom.forwardSegmentId.enabled = true ∧ phantom.forwardSegmentId.id = x ∧
          forwardKey = k) ∨
        (phantom.reverseSegmentId.enabled = true ∧ phantom.reverseSegmentId.id = x ∧
          reverseKey = k) → (x, k) ∈ seeds := by
  have forwardInside := fun enabled => bounded.inside _ _ (Or.inl ⟨enabled, rfl, rfl⟩)
  have reverseInside := fun enabled => bounded.inside _ _ (Or.inr ⟨enabled, rfl, rfl⟩)
  refine ⟨_, phantomSeeds_eq_seedHeap phantom forwardKey reverseKey, ?_, ?_, ?_⟩
  · split_ifs with forward reverse <;> simp [bounded.distinct, *]
  · split_ifs with forward reverse <;> simp [forwardInside, reverseInside, *]
  · rintro x k (⟨enabled, rfl, rfl⟩ | ⟨enabled, rfl, rfl⟩) <;> simp [enabled]

/-- A sweep from a phantom's seeds starts settled up to some key, with nothing taken out and
each seed in the heap at its own key. -/
theorem phantomSeeds_start (forwardKey reverseKey : Int) :
    (∃ floor, Sweeping g floor (phantomSeeds phantom forwardKey reverseKey)) ∧
      (∀ entry ∈ (phantomSeeds phantom forwardKey reverseKey).insertedNodes,
        entry.removed = false) ∧
      ∀ x k, (phantom.forwardSegmentId.enabled = true ∧ phantom.forwardSegmentId.id = x ∧
          forwardKey = k) ∨
        (phantom.reverseSegmentId.enabled = true ∧ phantom.reverseSegmentId.id = x ∧
          reverseKey = k) →
        (phantomSeeds phantom forwardKey reverseKey).wasInserted x = true ∧
          (phantomSeeds phantom forwardKey reverseKey).getKey x ≤ k := by
  obtain ⟨seeds, same, distinct, inside, listed⟩ := phantomSeeds_seedHeap bounded forwardKey reverseKey
  rw [same]
  refine ⟨sweeping_seedHeap g distinct inside, fun entry member => ?_, fun x k seeded => ?_⟩
  · rw [seedHeap_insertedNodes] at member
    obtain ⟨seed, -, rfl⟩ := List.mem_map.mp member
    rfl
  · obtain ⟨inserted, key⟩ := seedHeap_key distinct (listed x k seeded)
    exact ⟨inserted, key.le⟩

end Start

/-! ### Least routes -/

section Least

variable {g} {source target : PhantomNode} (updown : UpDown g)
  (sourceBounded : SeedsBounded g source) (targetBounded : SeedsBounded g target)
  (meets : ¬ NegativeMeet source target)
include updown sourceBounded targetBounded meets

/-- The up-down walk of a least route meets at a node that both sweeps settle at its exact keys,
so the cell is at most the route's weight. -/
theorem cellValue_le_least {least : Int} (route : RouteValue g source target least)
    (minimal : ∀ other, RouteValue g source target other → least ≤ other) :
    cellValue g source target ≤ least := by
  obtain ⟨x, a, y, b, W, sourceSeed, targetSeed, walk, rfl, -⟩ := route
  obtain ⟨m, up, down, upward, downward, shorter⟩ : ∃ m up down, g.SearchWalk true x m up ∧
      g.SearchWalk false y m down ∧ up + down ≤ W := by
    by_cases same : x = y
    · subst same
      exact ⟨x, 0, 0, .nil x, .nil x, by simpa using walk.nonneg⟩
    · exact updown x y W same walk
  have through : ∀ {x' y' : Nat} {a' b' w v : Int}, source.Seed x' a' → target.Seed y' b' →
      g.Walk x' m w → g.Walk m y' v → -a + W + b ≤ -a' + (w + v) + b' :=
    fun seeded seeded' first second => minimal _ ⟨_, _, _, _, _, seeded, seeded',
      first.append second, rfl, routeSum_nonneg sourceBounded targetBounded meets seeded seeded'
        (first.append second)⟩
  have forwardBelow : Below g true (fun x k => source.Seed x (-k)) m (-a + up) := by
    intro x' k w seeded road
    have := through seeded targetSeed road downward.toWalk_backward
    omega
  have backwardBelow : Below g false target.Seed m (b + down) := by
    intro y' b' v seeded road
    have := through sourceSeed seeded upward.toWalk_forward road
    omega
  obtain ⟨⟨_, sourceSweeping⟩, sourceFresh, sourceSeeded⟩ := phantomSeeds_start sourceBounded
    (-source.getForwardWeightPlusOffset) (-source.getReverseWeightPlusOffset)
  obtain ⟨⟨_, targetSweeping⟩, targetFresh, targetSeeded⟩ := phantomSeeds_start targetBounded
    target.getForwardWeightPlusOffset target.getReverseWeightPlusOffset
  have settled : (m, -a + up) ∈ sourceRun g source :=
    settleRun_exact sourceSweeping (attained_sourceSeeds g source) sourceFresh
      (settleRun_sweepFuel g _ _ _ _)
      (fun x k seeded => sourceSeeded x k
        (seeded.imp (fun ⟨enabled, at_x, key⟩ => ⟨enabled, at_x, by omega⟩)
          (fun ⟨enabled, at_x, key⟩ => ⟨enabled, at_x, by omega⟩)))
      (by simpa using sourceSeed) upward forwardBelow
  have bucket : (m, b + down) ∈ targetRun g target :=
    settleRun_exact targetSweeping (attained_phantomSeeds g false target _ _) targetFresh
      (settleRun_sweepFuel g _ _ _ _) targetSeeded targetSeed downward backwardBelow
  have meet := routeSum_nonneg sourceBounded targetBounded meets sourceSeed targetSeed
    (upward.toWalk_forward.append downward.toWalk_backward)
  have := cellValue_le_meet g settled bucket (by omega)
  omega

/-- The cell is at most the weight of every route. -/
theorem cellValue_le_route {route : Int} (found : RouteValue g source target route) :
    cellValue g source target ≤ route := by
  obtain ⟨least, leastRoute, minimal⟩ := exists_least_routeValue g found
  exact le_trans (cellValue_le_least updown sourceBounded targetBounded meets leastRoute minimal)
    (minimal route found)

end Least

theorem cellValue_le_invalid (source target : PhantomNode) :
    cellValue g source target ≤ invalidEdgeWeight :=
  foldl_le_self _ (fun value _ => foldl_le_self _ (cellUpdate_le g _ _) _ value) _ _

theorem getD_mem_or_default {α : Type} (items : List α) (position : Nat) (fallback : α) :
    items.getD position fallback ∈ items ∨ items.getD position fallback = fallback := by
  rcases Nat.lt_or_ge position items.length with inside | outside
  · exact Or.inl (List.getD_eq_getElem _ _ inside ▸ List.getElem_mem inside)
  · exact Or.inr (List.getD_eq_default _ _ outside)

/-- A selected phantom is one of the list or the default one an out-of-range index reads. -/
theorem selectPhantoms_getD_mem (phantomNodes : List PhantomNode) (indices : List Nat)
    (position : Nat) :
    (selectPhantoms phantomNodes indices).getD position default ∈ phantomNodes ∨
      (selectPhantoms phantomNodes indices).getD position default = default := by
  unfold selectPhantoms
  split
  · exact getD_mem_or_default _ _ _
  · rcases getD_mem_or_default (indices.map (phantomNodes.getD · default)) position default
      with listed | fallback
    · obtain ⟨index, -, same⟩ := List.mem_map.mp listed
      rw [← same]
      exact getD_mem_or_default _ _ _
    · exact Or.inr fallback

theorem seedsBounded_selectPhantoms {phantomNodes : List PhantomNode}
    (bounded : ∀ phantom ∈ phantomNodes, SeedsBounded g phantom) (indices : List Nat)
    (position : Nat) : SeedsBounded g ((selectPhantoms phantomNodes indices).getD position default) := by
  rcases selectPhantoms_getD_mem phantomNodes indices position with listed | fallback
  · exact bounded _ listed
  · rw [fallback]
    exact seedsBounded_default g

/-- The arcs of `upDownGraph`: `0 → 2` and `2 → 1`, both of weight `10`. -/
theorem upDownGraph_arc {u v : Nat} {w : Int} (arc : upDownGraph.Arc u v w) :
    u = 0 ∧ v = 2 ∧ w = 10 ∨ u = 2 ∧ v = 1 ∧ w = 10 := by
  rcases arc with ⟨edge, member, rfl, flagged, rfl⟩ | ⟨edge, member, rfl, flagged, rfl⟩
  · obtain _ | _ | _ | u := u <;> simp [upDownGraph, QueryGraph.adjacentEdges] at member <;>
      simp_all
  · obtain _ | _ | _ | v := v <;> simp [upDownGraph, QueryGraph.adjacentEdges] at member <;>
      simp_all

/-- Every walk of `upDownGraph` between two distinct nodes goes up to node `2` and then down. -/
theorem upDown_upDownGraph : UpDown upDownGraph := by
  have up : upDownGraph.SearchWalk true 0 2 10 := by
    have arc : upDownGraph.SearchArc true 0 2 10 := ⟨⟨2, 10, true, false⟩, by decide, rfl, rfl, rfl⟩
    simpa using SearchWalk.snoc (SearchWalk.nil 0) arc
  have down : upDownGraph.SearchWalk false 1 2 10 := by
    have arc : upDownGraph.SearchArc false 1 2 10 := ⟨⟨2, 10, false, true⟩, by decide, rfl, rfl, rfl⟩
    simpa using SearchWalk.snoc (SearchWalk.nil 1) arc
  have stuck : ∀ {v : Nat} {w : Int}, ¬ upDownGraph.Arc 1 v w := fun arc => by
    rcases upDownGraph_arc arc with ⟨wrong, -⟩ | ⟨wrong, -⟩ <;> cases wrong
  intro x y W distinct walk
  cases walk with
  | nil => exact absurd rfl distinct
  | cons arc rest =>
    rcases upDownGraph_arc arc with ⟨rfl, rfl, rfl⟩ | ⟨rfl, rfl, rfl⟩
    · cases rest with
      | nil => exact ⟨2, 10, 0, up, .nil 2, by omega⟩
      | cons arc rest =>
        rcases upDownGraph_arc arc with ⟨wrong, -⟩ | ⟨-, rfl, rfl⟩
        · cases wrong
        · cases rest with
          | nil => exact ⟨2, 10, 10, up, down, by omega⟩
          | cons arc _ => exact absurd arc stuck
    · cases rest with
      | nil => exact ⟨2, 0, 10, .nil 2, down, by omega⟩
      | cons arc _ => exact absurd arc stuck

/-- A source with seeds `(0, 3)` and `(2, 4)`. -/
def boundedSource : PhantomNode := ⟨⟨0, true⟩, ⟨2, true⟩, 3, 4, 0, 0⟩

/-- A target with seeds `(1, 2)` and `(2, 5)`. -/
def boundedTarget : PhantomNode := ⟨⟨1, true⟩, ⟨2, true⟩, 2, 5, 0, 0⟩

theorem seedsBounded_boundedSource : SeedsBounded upDownGraph boundedSource where
  distinct := fun _ _ => by decide
  inside := by rintro x a (⟨-, rfl, -⟩ | ⟨-, rfl, -⟩) <;> decide
  nonneg := by rintro x a (⟨-, -, rfl⟩ | ⟨-, -, rfl⟩) <;> decide
  le_arc := by
    rintro x a (⟨-, rfl, rfl⟩ | ⟨-, rfl, rfl⟩) v w arc <;>
      rcases upDownGraph_arc arc with ⟨at_x, -, rfl⟩ | ⟨at_x, -, rfl⟩ <;> revert at_x <;> decide

theorem seedsBounded_boundedTarget : SeedsBounded upDownGraph boundedTarget where
  distinct := fun _ _ => by decide
  inside := by rintro x a (⟨-, rfl, -⟩ | ⟨-, rfl, -⟩) <;> decide
  nonneg := by rintro x a (⟨-, -, rfl⟩ | ⟨-, -, rfl⟩) <;> decide
  le_arc := by
    rintro x a (⟨-, rfl, rfl⟩ | ⟨-, rfl, rfl⟩) v w arc <;>
      rcases upDownGraph_arc arc with ⟨at_x, -, rfl⟩ | ⟨at_x, -, rfl⟩ <;> revert at_x <;> decide

/-- The two phantoms share node `2`, where the sum `-4 + 5` is not negative. -/
theorem not_negativeMeet_bounded : ¬ NegativeMeet boundedSource boundedTarget := by
  rintro ⟨x, a, b, ⟨-, rfl, rfl⟩ | ⟨-, rfl, rfl⟩, ⟨-, at_x, rfl⟩ | ⟨-, at_x, rfl⟩, lower⟩ <;>
    revert at_x lower <;> decide

example : manyToManyRouting upDownGraph [boundedSource, boundedTarget] [0] [1] = [1] := by decide

end Osrm.Engine.RoutingAlgorithms
