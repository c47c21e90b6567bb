import Osrm.Extractor.NameTable

/-!
# Packed geometries

`GetUncompressedGeometry` and `GetUncompressedWeights` (`shared_datafacade.hpp:521-550`) read the
packed geometry of an edge from `m_geometry_indices.at(id)` up to `m_geometry_indices.at(id + 1)`
of `m_geometry_list`: its via nodes, and the weights of its segments. `GetUncompressedDatasources`
(`shared_datafacade.hpp:751-776`) reads the same range of `m_datasource_list`, or gives one `0`
per segment when that list is empty.

The geometry file is written by `CompressedEdgeContainer`, which is not in this tree. Its layout
is `EncodesGeometries`: the prefix sums of the geometries' lengths with the total as sentinel,
then the compressed edges of all geometries one after the other. `.at` throws past the end of
the index. On a range whose end lies before its begin, `reserve` asks for the `unsigned`
difference, close to `2 ^ 32` elements, and the loop from `begin` up to `end` never meets its
end: like a loop past the end of the list, it is undefined. The model returns `none` in each
case.

`getUncompressed_roundTrip`: through any index that encodes the packed geometries, every edge
reads back its via nodes, its weights and its datasources, so the three have one length.
-/

namespace Osrm.Engine.Datafacade

/-- `CompressedEdgeContainer::CompressedEdge`, as the facade reads it. -/
structure CompressedEdge where
  nodeId : Nat
  weight : Int
  deriving DecidableEq, Repr

/-- `begin = m_geometry_indices.at(id)` and `end = m_geometry_indices.at(id + 1)`, `id + 1` an
`unsigned` sum; `none` where `at` throws or where the range runs backwards. -/
def geometryRange (geometryIndices : List Nat) (id : Nat) : Option (Nat × Nat) := do
  let begin ← geometryIndices[id]?
  let stop ← geometryIndices[(id + 1) % 2 ^ 32]?
  if begin ≤ stop then some (begin, stop) else none

/-- The loop over `list.begin() + begin` up to `list.begin() + end`; `none` past the end. -/
def readRange {α : Type} (list : List α) (begin stop : Nat) : Option (List α) :=
  if stop ≤ list.length then some ((list.drop begin).take (stop - begin)) else none

/-- `SharedDataFacade::GetUncompressedGeometry`. -/
def getUncompressedGeometry (geometryIndices : List Nat) (geometryList : List CompressedEdge)
    (id : Nat) : Option (List Nat) := do
  let (begin, stop) ← geometryRange geometryIndices id
  (readRange geometryList begin stop).map (List.map CompressedEdge.nodeId)

/-- `SharedDataFacade::GetUncompressedWeights`. -/
def getUncompressedWeights (geometryIndices : List Nat) (geometryList : List CompressedEdge)
    (id : Nat) : Option (List Int) := do
  let (begin, stop) ← geometryRange geometryIndices id
  (readRange geometryList begin stop).map (List.map CompressedEdge.weight)

/-- `SharedDataFacade::GetUncompressedDatasources`: an array of `0`s when there is no datasource
information. -/
def getUncompressedDatasources (geometryIndices : List Nat) (datasourceList : List Nat)
    (id : Nat) : Option (List Nat) := do
  let (begin, stop) ← geometryRange geometryIndices id
  if datasourceList.isEmpty then some (List.replicate (stop - begin) 0)
  else readRange datasourceList begin stop

/-- The geometry file's layout: `geometryIndices` holds the prefix sums of the geometries'
lengths, the total last, and `geometryList` their compressed edges in id order. -/
structure EncodesGeometries (geometryIndices : List Nat) (geometryList : List CompressedEdge)
    (geometries : List (List CompressedEdge)) : Prop where
  indices : ∀ id ≤ geometries.length,
    geometryIndices[id]? = some ((geometries.map List.length).take id).sum
  list : geometryList = geometries.flatten

open Extractor

section RoundTrip

variable {α : Type} {geometryIndices : List Nat} {geometries : List (List α)}

/-- An index of prefix sums with fewer than `2 ^ 32` entries gives every id its range. -/
theorem geometryRange_of_indices
    (indices : ∀ id ≤ geometries.length,
      geometryIndices[id]? = some ((geometries.map List.length).take id).sum)
    (fewEdges : geometries.length < 2 ^ 32) {id : Nat} (inside : id < geometries.length) :
    geometryRange geometryIndices id = some (((geometries.map List.length).take id).sum,
      ((geometries.map List.length).take id).sum + geometries[id].length) := by
  have noWrap : (id + 1) % 2 ^ 32 = id + 1 := Nat.mod_eq_of_lt (by omega)
  simp only [geometryRange, indices id inside.le, noWrap, indices (id + 1) inside,
    sum_take_succ_lengths _ inside, Option.bind_eq_bind, Option.some_bind, Nat.le_add_right,
    if_true]

/-- The range of a geometry, read out of the flattened list, is the geometry. -/
theorem readRange_flatten (geometries : List (List α)) {id : Nat} (inside : id < geometries.length) :
    readRange geometries.flatten ((geometries.map List.length).take id).sum
      (((geometries.map List.length).take id).sum + geometries[id].length) = some geometries[id] := by
  have bound := sum_take_lengths_le geometries (id + 1)
  rw [sum_take_succ_lengths _ inside] at bound
  rw [readRange, if_pos bound, Nat.add_sub_cancel_left, slice_flatten _ inside]

end RoundTrip

/-- Every edge's packed geometry is read back from a table in the geometry file's layout: its via
nodes, the weights of its segments, and its datasources, taken from a datasource list that holds
one per segment, or `0`s when there is none. -/
theorem getUncompressed_roundTrip {geometryIndices : List Nat} {geometryList : List CompressedEdge}
    {geometries : List (List CompressedEdge)} (encodes : EncodesGeometries geometryIndices
      geometryList geometries) (fewEdges : geometries.length < 2 ^ 32)
    (datasources : List (List Nat))
    (aligned : datasources.map List.length = geometries.map List.length)
    {id : Nat} (inside : id < geometries.length) :
    getUncompressedGeometry geometryIndices geometryList id =
        some (geometries[id].map CompressedEdge.nodeId) ∧
      getUncompressedWeights geometryIndices geometryList id =
        some (geometries[id].map CompressedEdge.weight) ∧
      getUncompressedDatasources geometryIndices datasources.flatten id = datasources[id]? ∧
      getUncompressedDatasources geometryIndices [] id =
        some (List.replicate geometries[id].length 0) := by
  have range := geometryRange_of_indices encodes.indices fewEdges inside
  have sameLength : datasources.length = geometries.length := by
    simpa using congrArg List.length aligned
  have sourceInside : id < datasources.length := sameLength ▸ inside
  have lengthAt : datasources[id].length = geometries[id].length := by
    have atId := List.getElem_of_eq aligned (by simpa using sourceInside)
    rwa [List.getElem_map, List.getElem_map] at atId
  have datasourceRange := readRange_flatten datasources sourceInside
  rw [aligned, lengthAt] at datasourceRange
  simp only [getUncompressedGeometry, getUncompressedWeights, getUncompressedDatasources, range,
    encodes.list, readRange_flatten _ inside, Option.bind_eq_bind, Option.some_bind,
    Option.map_some', Nat.add_sub_cancel_left, List.isEmpty_nil, if_true, true_and, and_true]
  rw [List.getElem?_eq_getElem sourceInside]
  by_cases empty : datasources.flatten.isEmpty
  · have none : datasources[id] = [] := by
      simp only [List.isEmpty_iff, List.flatten_eq_nil_iff] at empty
      exact empty _ (List.getElem_mem sourceInside)
    rw [if_pos empty, none, ← lengthAt, none]
    rfl
  · rw [if_neg empty, datasourceRange]

/-- Two packed geometries, of two segments and of one, with their datasources. -/
def twoGeometries : List (List CompressedEdge) := [[⟨7, 10⟩, ⟨8, 20⟩], [⟨9, 5⟩]]

theorem getUncompressed_roundTrip_twoGeometries :
    EncodesGeometries [0, 2, 3] twoGeometries.flatten twoGeometries ∧
      twoGeometries.length < 2 ^ 32 ∧
      [[1, 1], [2]].map List.length = twoGeometries.map List.length ∧
      1 < twoGeometries.length ∧
      getUncompressedGeometry [0, 2, 3] twoGeometries.flatten 1 =
        some (twoGeometries[1].map CompressedEdge.nodeId) ∧
      getUncompressedWeights [0, 2, 3] twoGeometries.flatten 1 =
        some (twoGeometries[1].map CompressedEdge.weight) ∧
      getUncompressedDatasources [0, 2, 3] [[1, 1], [2]].flatten 1 = [[1, 1], [2]][1]? ∧
      getUncompressedDatasources [0, 2, 3] [] 1 = some (List.replicate twoGeometries[1].length 0) :=
  have encodes : EncodesGeometries [0, 2, 3] twoGeometries.flatten twoGeometries :=
    ⟨by decide, rfl⟩
  have inside : 1 < twoGeometries.length := by decide
  ⟨encodes, by decide, rfl, inside,
    getUncompressed_roundTrip encodes (by decide) [[1, 1], [2]] rfl inside⟩

example : getUncompressedDatasources [0, 2, 3] [] 0 = some [0, 0] ∧
    getUncompressedGeometry [0, 3, 2] twoGeometries.flatten 1 = none := by
  decide

end Osrm.Engine.Datafacade
