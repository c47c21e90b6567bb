import Osrm.Engine.QueryGraph

/-!
# Query heap

`SearchEngineData::QueryHeap` is `util::BinaryHeap`, whose source is not among the repository's
files. The model follows the spec (§4.3): an addressable min-heap over node ids with an insertion
log (`inserted_nodes`) that keeps every node inserted since the last `Clear`, its key, and whether
`DeleteMin` has taken it out of the ordering heap. `DeleteMin` returns an entry of least key
still in the heap; among equal keys it takes the earliest inserted one. The per-node payload (the
parent) is written by `RelaxOutgoingEdges` but never read by the matrix search, so it is left out.

The lemmas describe each operation through `lookup`, the entry of a node, so that the search
proofs never unfold the list representation.
-/

namespace Osrm.Engine

/-- An entry of the insertion log: the node, its current key, and whether it was removed. -/
structure HeapNode where
  node : Nat
  key : Int
  removed : Bool
  deriving DecidableEq, Repr

/-- Modelled from the spec: the query heap of §4.3 ("Insert(node, key, parent),
WasInserted(node), GetKey(node), DecreaseKey(node, key), DeleteMin()→node, Empty, Clear"),
as its insertion log. -/
structure QueryHeap where
  insertedNodes : List HeapNode
  deriving DecidableEq, Repr

namespace QueryHeap

/-- `Clear()`. -/
def clear : QueryHeap := ⟨[]⟩

/-- The log entry of `node`, if it was inserted. -/
def lookup (heap : QueryHeap) (node : Nat) : Option HeapNode :=
  heap.insertedNodes.find? (·.node == node)

/-- `WasInserted(node)`: inserted since the last `Clear`, whether removed or not. -/
def wasInserted (heap : QueryHeap) (node : Nat) : Bool :=
  (heap.lookup node).isSome

/-- `GetKey(node)`; the code calls it on inserted nodes only. -/
def getKey (heap : QueryHeap) (node : Nat) : Int :=
  ((heap.lookup node).map (·.key)).getD 0

/-- `Insert(node, key, parent)`; the code calls it on nodes not yet inserted. -/
def insert (heap : QueryHeap) (node : Nat) (key : Int) : QueryHeap :=
  ⟨heap.insertedNodes ++ [⟨node, key, false⟩]⟩

/-- `DecreaseKey(node, key)`. -/
def decreaseKey (heap : QueryHeap) (node : Nat) (key : Int) : QueryHeap :=
  ⟨heap.insertedNodes.map fun entry => if entry.node = node then { entry with key := key } else entry⟩

/-- `Empty()`: no entry is left in the ordering heap. -/
def empty (heap : QueryHeap) : Bool :=
  heap.insertedNodes.all (·.removed)

/-- The earliest entry of least key among those still in the ordering heap. -/
def selectMin : List HeapNode → Option HeapNode
  | [] => none
  | entry :: rest =>
    match selectMin rest with
    | none => if entry.removed then none else some entry
    | some best => if !entry.removed && entry.key ≤ best.key then some entry else some best

/-- Marks an entry of `node` as taken out of the ordering heap. -/
def markRemoved (node : Nat) (entry : HeapNode) : HeapNode :=
  if entry.node = node then { entry with removed := true } else entry

@[simp] theorem markRemoved_node (node : Nat) (entry : HeapNode) :
    (markRemoved node entry).node = entry.node := by
  unfold markRemoved; split <;> rfl

@[simp] theorem markRemoved_key (node : Nat) (entry : HeapNode) :
    (markRemoved node entry).key = entry.key := by
  unfold markRemoved; split <;> rfl

@[simp] theorem markRemoved_removed (node : Nat) (entry : HeapNode) :
    (markRemoved node entry).removed = (entry.removed || decide (entry.node = node)) := by
  unfold markRemoved; split <;> simp [*]

/-- Takes `node` out of the ordering heap, keeping its log entry. -/
def removeNode (heap : QueryHeap) (node : Nat) : QueryHeap :=
  ⟨heap.insertedNodes.map (markRemoved node)⟩

/-- `DeleteMin()`: the node of least key, taken out of the ordering heap; its key stays readable
through `GetKey`. The code calls it on a non-empty heap only. -/
def deleteMin (heap : QueryHeap) : Nat × QueryHeap :=
  match selectMin heap.insertedNodes with
  | none => (0, heap)
  | some best => (best.node, heap.removeNode best.node)

/-! ### Each operation through `lookup` -/

@[simp] theorem lookup_clear (node : Nat) : clear.lookup node = none := rfl

theorem lookup_insert (heap : QueryHeap) (node m : Nat) (key : Int) :
    (heap.insert node key).lookup m =
      (heap.lookup m).or (if node = m then some ⟨node, key, false⟩ else none) := by
  by_cases same : node = m <;> simp [lookup, insert, List.find?_append, same]

theorem lookup_decreaseKey (heap : QueryHeap) (node m : Nat) (key : Int) :
    (heap.decreaseKey node key).lookup m =
      (heap.lookup m).map fun entry =>
        if entry.node = node then { entry with key := key } else entry := by
  unfold lookup decreaseKey
  rw [List.find?_map]
  congr 2
  funext entry
  by_cases same : entry.node = node <;> simp [same]

theorem lookup_removeNode (heap : QueryHeap) (node m : Nat) :
    (heap.removeNode node).lookup m = (heap.lookup m).map (markRemoved node) := by
  unfold lookup removeNode
  rw [List.find?_map]
  congr 2
  funext entry
  simp

theorem lookup_node {heap : QueryHeap} {m : Nat} {entry : HeapNode}
    (found : heap.lookup m = some entry) : entry.node = m := by
  simpa using List.find?_some found

theorem lookup_mem {heap : QueryHeap} {m : Nat} {entry : HeapNode}
    (found : heap.lookup m = some entry) : entry ∈ heap.insertedNodes :=
  List.mem_of_find?_eq_some found

@[simp] theorem wasInserted_insert (heap : QueryHeap) (node m : Nat) (key : Int) :
    (heap.insert node key).wasInserted m = (heap.wasInserted m || decide (node = m)) := by
  by_cases same : node = m <;> cases found : heap.lookup m <;>
    simp [wasInserted, lookup_insert, same, found]

@[simp] theorem wasInserted_decreaseKey (heap : QueryHeap) (node m : Nat) (key : Int) :
    (heap.decreaseKey node key).wasInserted m = heap.wasInserted m := by
  simp [wasInserted, lookup_decreaseKey]

@[simp] theorem wasInserted_removeNode (heap : QueryHeap) (node m : Nat) :
    (heap.removeNode node).wasInserted m = heap.wasInserted m := by
  simp [wasInserted, lookup_removeNode]

@[simp] theorem getKey_removeNode (heap : QueryHeap) (node m : Nat) :
    (heap.removeNode node).getKey m = heap.getKey m := by
  cases found : heap.lookup m <;> simp [getKey, lookup_removeNode, found]

/-- The entry a key is read from: an inserted node's key is that of a log entry of the node. -/
theorem getKey_mem {heap : QueryHeap} {m : Nat} (inserted : heap.wasInserted m = true) :
    ∃ entry ∈ heap.insertedNodes, entry.node = m ∧ entry.key = heap.getKey m := by
  cases found : heap.lookup m with
  | none => simp [wasInserted, found] at inserted
  | some entry => exact ⟨entry, lookup_mem found, lookup_node found, by simp [getKey, found]⟩

/-! ### Entries still in the ordering heap -/

/-- The number of log entries still in the ordering heap. -/
def liveCount (heap : QueryHeap) : Nat :=
  heap.insertedNodes.countP fun entry => !entry.removed

@[simp] theorem liveCount_insert (heap : QueryHeap) (node : Nat) (key : Int) :
    (heap.insert node key).liveCount = heap.liveCount + 1 := by
  simp [liveCount, insert, List.countP_append]

@[simp] theorem liveCount_decreaseKey (heap : QueryHeap) (node : Nat) (key : Int) :
    (heap.decreaseKey node key).liveCount = heap.liveCount := by
  simp only [liveCount, decreaseKey, List.countP_map]
  congr 1
  funext entry
  simp only [Function.comp_apply]
  split <;> rfl

/-- Taking out a node with a live entry lowers the count of live entries. -/
theorem liveCount_removeNode_lt (heap : QueryHeap) (node : Nat)
    (live : ∃ entry ∈ heap.insertedNodes, entry.node = node ∧ entry.removed = false) :
    (heap.removeNode node).liveCount < heap.liveCount := by
  obtain ⟨entries⟩ := heap
  obtain ⟨witness, member, same, live⟩ := live
  simp only [liveCount, removeNode, List.countP_map, Function.comp_def, markRemoved_removed]
  induction entries with
  | nil => cases member
  | cons entry rest ih =>
    have rest_le := List.countP_mono_left (l := rest) (p := fun entry : HeapNode =>
      !(entry.removed || decide (entry.node = node))) (q := fun entry => !entry.removed)
      (fun other _ => by cases other.removed <;> simp_all)
    simp only [List.countP_cons]
    rcases List.mem_cons.mp member with rfl | later
    · rw [if_neg (by simp [same]), if_pos (by simp [live])]
      omega
    · have rest_lt := ih later
      have head_le : (if (!(entry.removed || decide (entry.node = node))) = true then 1 else 0) ≤
          (if (!entry.removed) = true then 1 else 0) := by
        cases entry.removed <;> by_cases at_node : entry.node = node <;> simp [at_node]
      omega

/-! ### `selectMin` -/

theorem selectMin_cons (entry : HeapNode) (rest : List HeapNode) :
    selectMin (entry :: rest) = match selectMin rest with
      | none => if entry.removed then none else some entry
      | some best => if !entry.removed && entry.key ≤ best.key then some entry else some best :=
  rfl

theorem selectMin_live {entries : List HeapNode} {best : HeapNode}
    (selected : selectMin entries = some best) : best ∈ entries ∧ best.removed = false := by
  induction entries generalizing best with
  | nil => cases selected
  | cons entry rest ih =>
    rw [selectMin_cons] at selected
    cases rest_min : selectMin rest with
    | none =>
      rw [rest_min] at selected
      dsimp only at selected
      split at selected
      · cases selected
      · cases selected
        exact ⟨List.mem_cons_self _ _, by simpa using ‹¬entry.removed = true›⟩
    | some current =>
      rw [rest_min] at selected
      dsimp only at selected
      split at selected
      · cases selected
        exact ⟨List.mem_cons_self _ _, by simp_all⟩
      · cases selected
        exact ⟨List.mem_cons_of_mem _ (ih rest_min).1, (ih rest_min).2⟩

theorem selectMin_eq_none {entries : List HeapNode} :
    selectMin entries = none ↔ ∀ entry ∈ entries, entry.removed = true := by
  induction entries with
  | nil => simp [selectMin]
  | cons entry rest ih =>
    rw [selectMin_cons, List.forall_mem_cons]
    cases rest_min : selectMin rest with
    | none => cases entry.removed <;> simp_all
    | some current =>
      have live := selectMin_live rest_min
      have busy : ¬ ∀ other ∈ rest, other.removed = true :=
        fun all => by simp [all current live.1] at live
      dsimp only
      split <;> simp [busy]

/-- The selected entry is still in the ordering heap and has the least key there. -/
theorem selectMin_spec {entries : List HeapNode} {best : HeapNode}
    (selected : selectMin entries = some best) :
    best ∈ entries ∧ best.removed = false ∧
      ∀ entry ∈ entries, entry.removed = false → best.key ≤ entry.key := by
  refine ⟨(selectMin_live selected).1, (selectMin_live selected).2, ?_⟩
  induction entries generalizing best with
  | nil => cases selected
  | cons entry rest ih =>
    rw [selectMin_cons] at selected
    intro other member live
    cases rest_min : selectMin rest with
    | none =>
      rw [rest_min] at selected
      dsimp only at selected
      split at selected
      · cases selected
      · cases selected
        rcases List.mem_cons.mp member with rfl | member
        · exact le_refl _
        · simp [selectMin_eq_none.mp rest_min other member] at live
    | some current =>
      rw [rest_min] at selected
      dsimp only at selected
      split at selected
      · rename_i chosen
        cases selected
        simp only [Bool.and_eq_true, Bool.not_eq_true', decide_eq_true_eq] at chosen
        rcases List.mem_cons.mp member with rfl | member
        · exact le_refl _
        · exact le_trans chosen.2 (ih rest_min other member live)
      · rename_i skipped
        cases selected
        rcases List.mem_cons.mp member with rfl | member
        · simp only [Bool.and_eq_true, Bool.not_eq_true', decide_eq_true_eq, not_and,
            not_le] at skipped
          exact le_of_lt (skipped live)
        · exact ih rest_min other member live

theorem empty_iff_selectMin (heap : QueryHeap) :
    heap.empty = true ↔ selectMin heap.insertedNodes = none := by
  rw [selectMin_eq_none]
  simp [empty, List.all_eq_true]

/-- On a non-empty heap `DeleteMin` takes out the selected entry's node. -/
theorem deleteMin_of_busy {heap : QueryHeap} (busy : heap.empty = false) :
    ∃ best, best ∈ heap.insertedNodes ∧ best.removed = false ∧
      heap.deleteMin = (best.node, heap.removeNode best.node) := by
  cases selected : selectMin heap.insertedNodes with
  | none => simp [(empty_iff_selectMin heap).mpr selected] at busy
  | some best =>
    exact ⟨best, (selectMin_live selected).1, (selectMin_live selected).2,
      by simp [deleteMin, selected]⟩

theorem wasInserted_of_mem {heap : QueryHeap} {entry : HeapNode}
    (member : entry ∈ heap.insertedNodes) : heap.wasInserted entry.node = true := by
  simpa [wasInserted, lookup, List.find?_isSome] using ⟨entry, member, rfl⟩

theorem empty_of_liveCount {heap : QueryHeap} (none_live : heap.liveCount = 0) :
    heap.empty = true := by
  simpa [liveCount, List.countP_eq_zero, empty, List.all_eq_true] using none_live

theorem liveCount_le_length (heap : QueryHeap) : heap.liveCount ≤ heap.insertedNodes.length :=
  List.countP_le_length _

end QueryHeap

end Osrm.Engine
