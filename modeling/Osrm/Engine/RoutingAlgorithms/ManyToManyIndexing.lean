import Osrm.Engine.RoutingAlgorithms.ManyToMany

/-!
# A matrix cell depends only on its source and its target

`ManyToManyRouting::operator()` shares one bucket map between all target searches and one query
heap between all searches of a request. A cell `(r, c)` still depends only on the pair
`(sources[r], targets[c])`: the heap is cleared before every search, a backward search writes
only buckets of its own column, and a bucket of column `c'` read in row `r'` writes only cell
`r' * |targets| + c'`.

`manyToManyRouting_getElem?` computes every cell as `cellValue` of its two phantoms;
`manyToManyRouting_indices` compares a run over index lists with the run over all phantoms.
-/

namespace Osrm.Engine.RoutingAlgorithms

variable (g : QueryGraph)

/-- The nodes the backward sweep of `phantom` settles, with their keys. -/
def targetRun (phantom : PhantomNode) : List (Nat × Int) :=
  (settleRun g false (sweepFuel g) (targetSeeds phantom)).1

/-- The nodes the forward sweep of `phantom` settles, with their keys. -/
def sourceRun (phantom : PhantomNode) : List (Nat × Int) :=
  (settleRun g true (sweepFuel g) (sourceSeeds phantom)).1

/-- The keys a settle run records for `node`, in order. -/
def keysAt (run : List (Nat × Int)) (node : Nat) : List Int :=
  (run.filter (·.1 = node)).map (·.2)

/-- The cell of a source and a target: starting from `INVALID_EDGE_WEIGHT`, each node the
source's sweep settles combines its key with every key the target's sweep left there. -/
def cellValue (source target : PhantomNode) : Int :=
  (sourceRun g source).foldl
    (fun value settled =>
      (keysAt (targetRun g target) settled.1).foldl (cellUpdate g settled.1 settled.2) value)
    invalidEdgeWeight

/-! ### The bucket map after the target loop -/

theorem foldl_emplaceBack (columnIdx : Nat) (run : List (Nat × Int))
    (buckets : SearchSpaceWithBuckets) (node : Nat) :
    (run.foldl (fun buckets settled => buckets.emplaceBack settled.1 ⟨columnIdx, settled.2⟩)
      buckets) node = buckets node ++ (keysAt run node).map (⟨columnIdx, ·⟩) := by
  induction run generalizing buckets with
  | nil => simp [keysAt]
  | cons settled rest ih =>
    rw [List.foldl_cons, ih]
    by_cases same : settled.1 = node
    · simp [SearchSpaceWithBuckets.emplaceBack, keysAt, List.filter_cons, same]
    · have other : node ≠ settled.1 := fun equal => same equal.symm
      simp [SearchSpaceWithBuckets.emplaceBack, keysAt, List.filter_cons, same, other]

theorem searchTargetPhantom_apply (columnIdx : Nat) (phantom : PhantomNode)
    (buckets : SearchSpaceWithBuckets) (node : Nat) :
    searchTargetPhantom g columnIdx phantom buckets node =
      buckets node ++ (keysAt (targetRun g phantom) node).map (⟨columnIdx, ·⟩) := by
  unfold searchTargetPhantom
  rw [backwardSweep_eq]
  exact foldl_emplaceBack ..

/-- Every bucket the target loop adds names one of its columns. -/
theorem searchTargets_targetId (phantoms : List PhantomNode) (columnIdx : Nat)
    (buckets : SearchSpaceWithBuckets) (node : Nat) (bucket : NodeBucket)
    (member : bucket ∈ searchTargets g columnIdx phantoms buckets node) :
    bucket ∈ buckets node ∨
      columnIdx ≤ bucket.targetId ∧ bucket.targetId < columnIdx + phantoms.length := by
  induction phantoms generalizing columnIdx buckets with
  | nil => exact Or.inl member
  | cons phantom rest ih =>
    rcases ih _ _ member with old | fresh
    · rw [searchTargetPhantom_apply, List.mem_append] at old
      rcases old with old | added
      · exact Or.inl old
      · obtain ⟨key, -, rfl⟩ := List.mem_map.mp added
        exact Or.inr ⟨le_refl _, by simp only [List.length_cons]; omega⟩
    · exact Or.inr ⟨by omega, by simp only [List.length_cons]; omega⟩

/-- The buckets of one column are those its own target's sweep recorded. -/
theorem searchTargets_filter (phantoms : List PhantomNode) (columnIdx : Nat)
    (buckets : SearchSpaceWithBuckets) (node column : Nat) :
    (searchTargets g columnIdx phantoms buckets node).filter (·.targetId = column) =
      (buckets node).filter (·.targetId = column) ++
        if columnIdx ≤ column ∧ column < columnIdx + phantoms.length then
          (keysAt (targetRun g (phantoms.getD (column - columnIdx) default)) node).map
            (⟨column, ·⟩)
        else [] := by
  induction phantoms generalizing columnIdx buckets with
  | nil => simp only [searchTargets, List.length_nil]; rw [if_neg (by omega), List.append_nil]
  | cons phantom rest ih =>
    rw [searchTargets, ih, searchTargetPhantom_apply, List.filter_append, List.append_assoc]
    congr 1
    have own : ((keysAt (targetRun g phantom) node).map
        (fun key => (⟨columnIdx, key⟩ : NodeBucket))).filter (·.targetId = column) =
        if columnIdx = column then (keysAt (targetRun g phantom) node).map (⟨column, ·⟩)
        else [] := by
      split_ifs with same
      · subst same
        simp [List.filter_map, Function.comp_def, List.filter_eq_self.mpr]
      · simp [List.filter_map, Function.comp_def, same]
    rw [own, List.length_cons]
    rcases lt_trichotomy column columnIdx with before | same | after
    · rw [if_neg (by omega), if_neg (by omega), if_neg (by omega), List.append_nil]
    · subst same
      rw [if_pos rfl, if_neg (by omega), if_pos (by omega), List.append_nil, Nat.sub_self,
        List.getD_cons_zero]
    · rw [if_neg (by omega), List.nil_append]
      by_cases inside : column < columnIdx + 1 + rest.length
      · have index : column - columnIdx = (column - (columnIdx + 1)) + 1 := by omega
        rw [if_pos ⟨by omega, inside⟩, if_pos ⟨by omega, by omega⟩, index, List.getD_cons_succ]
      · rw [if_neg (by omega), if_neg (by omega)]

/-! ### One cell of the result table -/

/-- What the bucket loops of a row's settled nodes do to cell `index`. -/
def rowCell (numberOfTargets : Nat) (buckets : SearchSpaceWithBuckets) (rowIdx : Nat)
    (run : List (Nat × Int)) (index : Nat) (value : Int) : Int :=
  run.foldl
    (fun value settled =>
      (((buckets settled.1).filter (cellIndex rowIdx numberOfTargets ·.targetId = index)).map
        (·.distance)).foldl (cellUpdate g settled.1 settled.2) value)
    value

/-- What the source loop from row `rowIdx` on does to cell `index`. -/
def rowsCell (numberOfTargets : Nat) (buckets : SearchSpaceWithBuckets) :
    Nat → List PhantomNode → Nat → Int → Int
  | _, [], _, value => value
  | rowIdx, source :: rest, index, value =>
    rowsCell numberOfTargets buckets (rowIdx + 1) rest index
      (rowCell g numberOfTargets buckets rowIdx (sourceRun g source) index value)

theorem foldl_relaxBucket_getElem? (rowIdx numberOfTargets node : Nat) (sourceDistance : Int)
    (bucketList : List NodeBucket) (resultTable : List Int) (index : Nat) :
    (bucketList.foldl (relaxBucket g rowIdx numberOfTargets node sourceDistance)
      resultTable)[index]? =
      (resultTable[index]?).map fun value =>
        ((bucketList.filter (cellIndex rowIdx numberOfTargets ·.targetId = index)).map
          (·.distance)).foldl (cellUpdate g node sourceDistance) value := by
  induction bucketList generalizing resultTable with
  | nil => simp
  | cons bucket rest ih =>
    rw [List.foldl_cons, ih, relaxBucket_eq_set, List.getElem?_set]
    by_cases same : cellIndex rowIdx numberOfTargets bucket.targetId = index
    · subst same
      rcases Nat.lt_or_ge (cellIndex rowIdx numberOfTargets bucket.targetId) resultTable.length
        with inside | outside
      · simp [inside, List.filter_cons, List.getD_eq_getElem _ _ inside]
      · have missing : resultTable[cellIndex rowIdx numberOfTargets bucket.targetId]? = none :=
          List.getElem?_eq_none outside
        simp [missing, Nat.not_lt.mpr outside]
    · simp [same, List.filter_cons]

theorem foldl_relaxNodeBuckets_getElem? (rowIdx numberOfTargets : Nat)
    (buckets : SearchSpaceWithBuckets) (run : List (Nat × Int)) (resultTable : List Int)
    (index : Nat) :
    (run.foldl (relaxNodeBuckets g rowIdx numberOfTargets buckets) resultTable)[index]? =
      (resultTable[index]?).map (rowCell g numberOfTargets buckets rowIdx run index) := by
  induction run generalizing resultTable with
  | nil => rw [List.foldl_nil]; cases resultTable[index]? <;> rfl
  | cons settled rest ih =>
    rw [List.foldl_cons, ih, relaxNodeBuckets, foldl_relaxBucket_getElem?, Option.map_map]
    rfl

theorem searchSources_getElem? (numberOfTargets : Nat) (buckets : SearchSpaceWithBuckets)
    (rowIdx : Nat) (sources : List PhantomNode) (resultTable : List Int) (index : Nat) :
    (searchSources g numberOfTargets buckets rowIdx sources resultTable)[index]? =
      (resultTable[index]?).map (rowsCell g numberOfTargets buckets rowIdx sources index) := by
  induction sources generalizing rowIdx resultTable with
  | nil => simp [searchSources, rowsCell]
  | cons source rest ih =>
    rw [searchSources, ih, searchSourcePhantom, forwardSweep_eq, foldl_relaxNodeBuckets_getElem?,
      Option.map_map]
    rfl

/-! ### Cell indices -/

theorem cellIndex_lt (rowIdx numberOfTargets columnIdx : Nat) :
    cellIndex rowIdx numberOfTargets columnIdx < 2 ^ 32 :=
  Nat.mod_lt _ (Nat.two_pow_pos 32)

/-- Cell `r * M + c` with `c < M` lies below any bound that `(r + 1) * M` does not pass. -/
theorem cell_lt_of_rows {row column numberOfTargets bound : Nat} (column_lt : column < numberOfTargets)
    (rows : (row + 1) * numberOfTargets ≤ bound) : row * numberOfTargets + column < bound :=
  calc row * numberOfTargets + column
      < row * numberOfTargets + numberOfTargets := Nat.add_lt_add_left column_lt _
    _ = (row + 1) * numberOfTargets := (Nat.succ_mul _ _).symm
    _ ≤ bound := rows

/-- The `unsigned` index of a cell in a row that ends within `2 ^ 32` cells does not wrap. -/
theorem cellIndex_of_rows {row column numberOfTargets : Nat} (column_lt : column < numberOfTargets)
    (rows : (row + 1) * numberOfTargets ≤ 2 ^ 32) :
    cellIndex row numberOfTargets column = row * numberOfTargets + column :=
  Nat.mod_eq_of_lt (cell_lt_of_rows column_lt rows)

/-- Cells `r' * M + t` and `r * M + c` with `t, c < M` coincide only in the same row and column. -/
theorem cell_index_inj {rowIdx row column targetId numberOfTargets : Nat}
    (equal : rowIdx * numberOfTargets + targetId = row * numberOfTargets + column)
    (targetId_lt : targetId < numberOfTargets) (column_lt : column < numberOfTargets) :
    rowIdx = row ∧ targetId = column := by
  have positive : 0 < numberOfTargets := by omega
  have rows : rowIdx = row := by
    have divided := congrArg (· / numberOfTargets) equal
    simp only [Nat.add_comm (_ * numberOfTargets), Nat.add_mul_div_right _ _ positive,
      Nat.div_eq_of_lt targetId_lt, Nat.div_eq_of_lt column_lt, Nat.zero_add] at divided
    exact divided
  subst rows
  exact ⟨rfl, by omega⟩

/-- A row none of whose buckets names cell `index` leaves the cell unchanged. -/
theorem rowCell_of_unnamed {numberOfTargets : Nat} {buckets : SearchSpaceWithBuckets}
    {rowIdx index : Nat}
    (unnamed : ∀ node, ∀ bucket ∈ buckets node, cellIndex rowIdx numberOfTargets bucket.targetId ≠ index)
    (run : List (Nat × Int)) (value : Int) :
    rowCell g numberOfTargets buckets rowIdx run index value = value := by
  induction run generalizing value with
  | nil => rfl
  | cons settled rest ih =>
    have empty : (buckets settled.1).filter
        (cellIndex rowIdx numberOfTargets ·.targetId = index) = [] :=
      List.filter_eq_nil_iff.mpr fun bucket member => by simpa using unnamed _ bucket member
    simp only [rowCell, List.foldl_cons, empty, List.map_nil, List.foldl_nil] at ih ⊢
    exact ih value

/-- No bucket writes a cell at `2 ^ 32` or beyond. -/
theorem rowsCell_of_wrapped (numberOfTargets : Nat) (buckets : SearchSpaceWithBuckets)
    (sources : List PhantomNode) (rowIdx : Nat) {index : Nat} (beyond : 2 ^ 32 ≤ index)
    (value : Int) : rowsCell g numberOfTargets buckets rowIdx sources index value = value := by
  induction sources generalizing rowIdx value with
  | nil => rfl
  | cons source rest ih =>
    have unnamed : ∀ node, ∀ bucket ∈ buckets node,
        cellIndex rowIdx numberOfTargets bucket.targetId ≠ index := fun _ bucket _ equal =>
      Nat.not_lt.mpr beyond (equal ▸ cellIndex_lt rowIdx numberOfTargets bucket.targetId)
    rw [rowsCell, rowCell_of_unnamed g unnamed, ih]

section Rows

variable {g} {numberOfTargets : Nat} {buckets : SearchSpaceWithBuckets}
  (columns : ∀ node, ∀ bucket ∈ buckets node, bucket.targetId < numberOfTargets)
include columns

/-- Within its own row, a cell that does not wrap reads only the buckets of its own column. -/
theorem rowCell_own_row {row column : Nat} (rows : (row + 1) * numberOfTargets ≤ 2 ^ 32)
    (run : List (Nat × Int)) (value : Int) :
    rowCell g numberOfTargets buckets row run (row * numberOfTargets + column) value =
      run.foldl (fun value settled =>
        (((buckets settled.1).filter (·.targetId = column)).map (·.distance)).foldl
          (cellUpdate g settled.1 settled.2) value) value := by
  have own : ∀ node, (buckets node).filter
      (cellIndex row numberOfTargets ·.targetId = row * numberOfTargets + column) =
        (buckets node).filter (·.targetId = column) := fun node =>
    List.filter_congr fun bucket member => by
      simp only [cellIndex_of_rows (columns _ _ member) rows, Nat.add_left_cancel_iff]
  simp only [rowCell, own]

/-- A row whose cells do not wrap leaves the cells of every other row unchanged. -/
theorem rowCell_other_row {rowIdx row column : Nat} (other : rowIdx ≠ row)
    (column_lt : column < numberOfTargets) (rows : (rowIdx + 1) * numberOfTargets ≤ 2 ^ 32)
    (run : List (Nat × Int)) (value : Int) :
    rowCell g numberOfTargets buckets rowIdx run (row * numberOfTargets + column) value = value :=
  rowCell_of_unnamed g (fun _ _ member equal => other
    (cell_index_inj ((cellIndex_of_rows (columns _ _ member) rows).symm.trans equal)
      (columns _ _ member) column_lt).1) run value

/-- Rows after a cell's own row leave it unchanged while the table holds at most `2 ^ 32` cells. -/
theorem rowsCell_after {row column : Nat} (column_lt : column < numberOfTargets)
    (sources : List PhantomNode) (rowIdx : Nat) (later : row < rowIdx)
    (fits : (rowIdx + sources.length) * numberOfTargets ≤ 2 ^ 32) (value : Int) :
    rowsCell g numberOfTargets buckets rowIdx sources (row * numberOfTargets + column) value =
      value := by
  induction sources generalizing rowIdx value with
  | nil => rfl
  | cons source rest ih =>
    rw [List.length_cons, ← Nat.add_assoc, Nat.add_right_comm] at fits
    rw [rowsCell, rowCell_other_row columns (by omega) column_lt
      ((Nat.mul_le_mul_right _ (Nat.le_add_right _ _)).trans fits), ih _ (by omega) fits]

theorem rowsCell_row {column : Nat} (column_lt : column < numberOfTargets)
    (sources : List PhantomNode) (rowIdx row : Nat) (first : rowIdx ≤ row)
    (row_lt : row < rowIdx + sources.length)
    (fits : (rowIdx + sources.length) * numberOfTargets ≤ 2 ^ 32) (value : Int) :
    rowsCell g numberOfTargets buckets rowIdx sources (row * numberOfTargets + column) value =
      rowCell g numberOfTargets buckets row (sourceRun g (sources.getD (row - rowIdx) default))
        (row * numberOfTargets + column) value := by
  induction sources generalizing rowIdx value with
  | nil => simp at row_lt; omega
  | cons source rest ih =>
    rw [List.length_cons, ← Nat.add_assoc, Nat.add_right_comm] at fits row_lt
    rw [rowsCell]
    rcases Nat.eq_or_lt_of_le first with same | later
    · subst same
      rw [rowsCell_after columns column_lt _ _ (by omega) fits, Nat.sub_self, List.getD_cons_zero]
    · rw [rowCell_other_row columns (by omega) column_lt
        ((Nat.mul_le_mul_right _ (Nat.le_add_right _ _)).trans fits), ih _ (by omega) row_lt fits,
        show row - rowIdx = (row - (rowIdx + 1)) + 1 by omega, List.getD_cons_succ]

end Rows

/-! ### The whole table -/

theorem cell_index_lt {row column numberOfSources numberOfTargets : Nat}
    (row_lt : row < numberOfSources) (column_lt : column < numberOfTargets) :
    row * numberOfTargets + column < numberOfSources * numberOfTargets :=
  cell_lt_of_rows column_lt (Nat.mul_le_mul_right _ row_lt)

/-- The bucket map of the target loop holds only buckets of its own columns. -/
theorem searchTargets_columns (targets : List PhantomNode) (node : Nat) (bucket : NodeBucket)
    (member : bucket ∈ searchTargets g 0 targets SearchSpaceWithBuckets.empty node) :
    bucket.targetId < targets.length := by
  rcases searchTargets_targetId g targets 0 _ node bucket member with absent | ⟨-, column_lt⟩
  · cases absent
  · simpa using column_lt

/-- Cell `(row, column)` of a table of at most `2 ^ 32` cells is the `cellValue` of the row's
source and the column's target, whatever the other sources and targets are. -/
theorem searchSources_cell (sources targets : List PhantomNode) (row column : Nat)
    (row_lt : row < sources.length) (column_lt : column < targets.length)
    (fits : sources.length * targets.length ≤ 2 ^ 32) :
    (searchSources g targets.length (searchTargets g 0 targets SearchSpaceWithBuckets.empty) 0
        sources (List.replicate (sources.length * targets.length) invalidEdgeWeight))[row *
          targets.length + column]? =
      some (cellValue g (sources.getD row default) (targets.getD column default)) := by
  have columns := searchTargets_columns g targets
  rw [searchSources_getElem?, List.getElem?_replicate, if_pos (cell_index_lt row_lt column_lt),
    Option.map_some', rowsCell_row columns column_lt _ 0 row (Nat.zero_le _)
      (by simpa using row_lt) (by simpa using fits),
    rowCell_own_row columns ((Nat.mul_le_mul_right _ row_lt).trans fits), Nat.sub_zero,
    cellValue]
  congr 2
  funext value settled
  rw [searchTargets_filter, if_pos ⟨Nat.zero_le _, by simpa using column_lt⟩, Nat.sub_zero]
  simp [SearchSpaceWithBuckets.empty, Function.comp_def]

/-- A cell at `2 ^ 32` or beyond keeps `INVALID_EDGE_WEIGHT`: every write lands below. -/
theorem searchSources_wrapped (sources targets : List PhantomNode) {index : Nat}
    (beyond : 2 ^ 32 ≤ index) (inside : index < sources.length * targets.length) :
    (searchSources g targets.length (searchTargets g 0 targets SearchSpaceWithBuckets.empty) 0
        sources (List.replicate (sources.length * targets.length) invalidEdgeWeight))[index]? =
      some invalidEdgeWeight := by
  rw [searchSources_getElem?, List.getElem?_replicate, if_pos inside, Option.map_some',
    rowsCell_of_wrapped g _ _ _ _ beyond]

/-- An index list whose entries are in range selects the phantoms it names. -/
theorem selectPhantoms_getD (phantomNodes : List PhantomNode) (indices : List Nat) (position : Nat)
    (inside : position < indices.length) :
    (selectPhantoms phantomNodes indices).getD position default =
      phantomNodes.getD (indices.getD position 0) default := by
  have nonempty : indices.isEmpty = false := by
    cases indices with
    | nil => cases inside
    | cons => rfl
  simp [selectPhantoms, nonempty, List.getElem?_eq_getElem inside]

theorem selectPhantoms_length (phantomNodes : List PhantomNode) (indices : List Nat) :
    (selectPhantoms phantomNodes indices).length =
      if indices.isEmpty then phantomNodes.length else indices.length := by
  unfold selectPhantoms
  split <;> simp

/-- A run over index lists agrees, cell by cell, with the run over all phantoms, when neither
table has more than `2 ^ 32` cells: both hold the `cellValue` of the two phantoms the cell's
indices name. -/
theorem manyToManyRouting_indices (phantomNodes : List PhantomNode)
    (sourceIndices targetIndices : List Nat)
    (sources_lt : ∀ index ∈ sourceIndices, index < phantomNodes.length)
    (targets_lt : ∀ index ∈ targetIndices, index < phantomNodes.length)
    (fits : sourceIndices.length * targetIndices.length ≤ 2 ^ 32)
    (allFit : phantomNodes.length * phantomNodes.length ≤ 2 ^ 32)
    (row column : Nat) (row_lt : row < sourceIndices.length)
    (column_lt : column < targetIndices.length) :
    (manyToManyRouting g phantomNodes sourceIndices targetIndices)[row * targetIndices.length +
        column]? =
      some (cellValue g (phantomNodes.getD sourceIndices[row] default)
        (phantomNodes.getD targetIndices[column] default)) ∧
    (manyToManyRouting g phantomNodes [] [])[sourceIndices[row] * phantomNodes.length +
        targetIndices[column]]? =
      some (cellValue g (phantomNodes.getD sourceIndices[row] default)
        (phantomNodes.getD targetIndices[column] default)) := by
  have sources_ne : sourceIndices.isEmpty = false := by
    cases sourceIndices with
    | nil => cases row_lt
    | cons => rfl
  have targets_ne : targetIndices.isEmpty = false := by
    cases targetIndices with
    | nil => cases column_lt
    | cons => rfl
  have sources_length : (selectPhantoms phantomNodes sourceIndices).length =
      sourceIndices.length := by simp [selectPhantoms_length, sources_ne]
  have targets_length : (selectPhantoms phantomNodes targetIndices).length =
      targetIndices.length := by simp [selectPhantoms_length, targets_ne]
  constructor
  · have cell := searchSources_cell g (selectPhantoms phantomNodes sourceIndices)
      (selectPhantoms phantomNodes targetIndices) row column (sources_length ▸ row_lt)
      (targets_length ▸ column_lt) (by rw [sources_length, targets_length]; exact fits)
    rw [selectPhantoms_getD _ _ _ row_lt, selectPhantoms_getD _ _ _ column_lt,
      List.getD_eq_getElem _ _ row_lt, List.getD_eq_getElem _ _ column_lt] at cell
    unfold manyToManyRouting
    rw [← targets_length]
    exact cell
  · exact searchSources_cell g phantomNodes phantomNodes sourceIndices[row] targetIndices[column]
      (sources_lt _ (List.getElem_mem row_lt)) (targets_lt _ (List.getElem_mem column_lt)) allFit

/-- Two nodes and one stored edge `0 → 1` of weight `5`, read in both directions. -/
def oneEdgeGraph : QueryGraph where
  adjacency := [[⟨1, 5, true, true⟩], []]
  target_lt := by decide
  distance_pos := by decide

/-- A phantom on the edge `0 → 1` with both segments enabled: its forward segment, node `0`, at
weight `10`, and its reverse segment, node `1`, at weight `1`. The forward sweep lowers node `1`
from `-1` to `-10 + 5 = -5`, and the bucket loop at node `1` meets the negative sum `-5 + 1`. -/
def bidirectedPhantom : PhantomNode := ⟨⟨0, true⟩, ⟨1, true⟩, 10, 1, 0, 0⟩

/-- A phantom with only its forward segment, node `1`, enabled. -/
def forwardPhantom : PhantomNode := ⟨⟨1, true⟩, ⟨0, false⟩, 2, 0, 0, 0⟩

theorem manyToManyRouting_indices_oneEdgeGraph :
    (∀ index ∈ [1, 0, 1], index < [bidirectedPhantom, forwardPhantom].length) ∧
      (∀ index ∈ [0, 1], index < [bidirectedPhantom, forwardPhantom].length) ∧
      [1, 0, 1].length * [0, 1].length ≤ 2 ^ 32 ∧
      [bidirectedPhantom, forwardPhantom].length * [bidirectedPhantom, forwardPhantom].length ≤
        2 ^ 32 ∧
      (manyToManyRouting oneEdgeGraph [bidirectedPhantom, forwardPhantom] [1, 0, 1] [0, 1])[2 *
          [0, 1].length + 0]? =
        some (cellValue oneEdgeGraph ([bidirectedPhantom, forwardPhantom].getD [1, 0, 1][2] default)
          ([bidirectedPhantom, forwardPhantom].getD [0, 1][0] default)) ∧
      (manyToManyRouting oneEdgeGraph [bidirectedPhantom, forwardPhantom] [] [])[[1, 0, 1][2] *
          [bidirectedPhantom, forwardPhantom].length + [0, 1][0]]? =
        some (cellValue oneEdgeGraph ([bidirectedPhantom, forwardPhantom].getD [1, 0, 1][2] default)
          ([bidirectedPhantom, forwardPhantom].getD [0, 1][0] default)) :=
  ⟨by decide, by decide, by decide, by decide,
    manyToManyRouting_indices oneEdgeGraph _ [1, 0, 1] [0, 1] (by decide) (by decide) (by decide)
      (by decide) 2 0 (by decide) (by decide)⟩

example : manyToManyRouting oneEdgeGraph [bidirectedPhantom, forwardPhantom] [1, 0, 1] [0, 1] =
    [invalidEdgeWeight, 0, 0, invalidEdgeWeight, invalidEdgeWeight, 0] := by
  decide

/-- Every cell of a table at `2 ^ 32` or beyond keeps `INVALID_EDGE_WEIGHT`. -/
theorem manyToManyRouting_wrapped (phantomNodes : List PhantomNode)
    (sourceIndices targetIndices : List Nat) {index : Nat} (beyond : 2 ^ 32 ≤ index)
    (inside : index < (selectPhantoms phantomNodes sourceIndices).length *
      (selectPhantoms phantomNodes targetIndices).length) :
    (manyToManyRouting g phantomNodes sourceIndices targetIndices)[index]? =
      some invalidEdgeWeight :=
  searchSources_wrapped g _ _ beyond inside

/-- With `65537` copies of one phantom the table of all pairs has more than `2 ^ 32` cells. The
write for cell `65536 * 65537 + 65536` lands at `131072`, so the cell keeps
`INVALID_EDGE_WEIGHT`, while the run over the index lists `[65536]` and `[65536]` finds `0`. -/
theorem manyToManyRouting_indices_wraps :
    (∀ index ∈ [65536], index < (List.replicate 65537 bidirectedPhantom).length) ∧
      (manyToManyRouting oneEdgeGraph (List.replicate 65537 bidirectedPhantom) [65536]
          [65536])[0 * [65536].length + 0]? = some 0 ∧
      (manyToManyRouting oneEdgeGraph (List.replicate 65537 bidirectedPhantom) [] [])[65536 *
          (List.replicate 65537 bidirectedPhantom).length + 65536]? = some invalidEdgeWeight := by
  have select : selectPhantoms (List.replicate 65537 bidirectedPhantom) [65536] =
      [bidirectedPhantom] := by
    show [(List.replicate 65537 bidirectedPhantom).getD 65536 default] = _
    rw [List.getD_eq_getElem?_getD, List.getElem?_replicate, if_pos (by decide)]
    rfl
  have self : cellValue oneEdgeGraph bidirectedPhantom bidirectedPhantom = 0 := by decide
  have all : selectPhantoms (List.replicate 65537 bidirectedPhantom) [] =
      List.replicate 65537 bidirectedPhantom := rfl
  refine ⟨fun index member => by rw [List.mem_singleton.mp member, List.length_replicate]; decide,
    ?_, @manyToManyRouting_wrapped oneEdgeGraph _ [] []
      (65536 * (List.replicate 65537 bidirectedPhantom).length + 65536)
      (by rw [List.length_replicate]; decide) (by rw [all, List.length_replicate]; decide)⟩
  unfold manyToManyRouting
  rw [select, ← self]
  exact searchSources_cell oneEdgeGraph [bidirectedPhantom] [bidirectedPhantom] 0 0 (by decide)
    (by decide) (by decide)

end Osrm.Engine.RoutingAlgorithms
