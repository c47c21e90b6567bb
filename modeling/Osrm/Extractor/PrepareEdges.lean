import Mathlib.Data.List.Basic

/-!
# Removing parallel edges in `PrepareEdges`

After renumbering and orienting the edges so that `source < target`, `PrepareEdges`
(`extraction_containers.cpp:443-531`) sorts them with `CmpEdgeByInternalSourceTargetAndName`
and walks the sorted vector once. Each run of edges with one `(source, target)` pair keeps its
first least-weight forward edge and its first least-weight backward edge; the backward one is
turned around, and every other edge of the run is invalidated by setting both ends to
`SPECIAL_NODEID`. The walk stops at the first edge whose source is `SPECIAL_NODEID`.

`operator[]` outside the vector is undefined; the model returns `readPastEnd` or `writePastEnd`
there, so a result `ok` also says that every access was in range. Indices are unbounded
naturals: the source's `unsigned` counters agree with them on vectors of at most
`std::numeric_limits<unsigned>::max()` edges, which the results assume. The `BOOST_ASSERT`s are
compiled out of release builds and are not modelled.

`removeDuplicateEdges_reads_past_end` shows that a vector whose last run is valid makes the inner
`while` read one element past the end. `removeDuplicateEdges_resolved` describes the result on a
sorted vector that ends in an invalid edge and whose weights are below `INT_MAX`; an edge of weight
`INT_MAX` never becomes a minimum, since `INT_MAX` is also the loop's "no edge yet" value.
-/

namespace Osrm.Extractor

/-- The fields of `NodeBasedEdge` (`InternalExtractorEdge::result`) that the sort and the duplicate
removal read or write. -/
structure NodeBasedEdge where
  source : Nat
  target : Nat
  nameId : Nat
  weight : Int
  forward : Bool
  backward : Bool
  isSplit : Bool
  deriving DecidableEq, Repr

/-- `std::numeric_limits<int>::max()`. -/
def intMax : Int := 2147483647

/-- `std::numeric_limits<unsigned>::max()`. -/
def unsignedMax : Nat := 4294967295

/-- `CmpEdgeByInternalSourceTargetAndName`. The lexicographic comparison of the two names in
`name_data` is the parameter `nameLess`. -/
def cmpEdgeByInternalSourceTargetAndName (specialNodeId emptyNameId : Nat)
    (nameLess : Nat → Nat → Bool) (lhs rhs : NodeBasedEdge) : Bool :=
  if lhs.source ≠ rhs.source then decide (lhs.source < rhs.source)
  else if lhs.target ≠ rhs.target then decide (lhs.target < rhs.target)
  else if lhs.source = specialNodeId then false
  else if lhs.nameId = rhs.nameId then false
  else if lhs.nameId = emptyNameId then false
  else if rhs.nameId = emptyNameId then true
  else nameLess lhs.nameId rhs.nameId

/-- An access that `operator[]` makes outside the vector. -/
inductive EdgeError
  | readPastEnd (index : Nat)
  | writePastEnd (index : Nat)
  | outOfFuel
  deriving DecidableEq, Repr

/-- `all_edges_list[index]` read. -/
def readAt (edges : List NodeBasedEdge) (index : Nat) : Except EdgeError NodeBasedEdge :=
  match edges[index]? with
  | some edge => .ok edge
  | none => .error (.readPastEnd index)

/-- `all_edges_list[index].result` written through `update`. -/
def modifyAt (edges : List NodeBasedEdge) (index : Nat) (update : NodeBasedEdge → NodeBasedEdge) :
    Except EdgeError (List NodeBasedEdge) :=
  match edges[index]? with
  | some edge => .ok (edges.set index (update edge))
  | none => .error (.writePastEnd index)

/-- `min_forward_weight` with `min_forward_idx`, or the backward pair. -/
structure Minimum where
  weight : Int
  idx : Nat
  deriving DecidableEq, Repr

/-- The values the loop starts each run with. -/
def Minimum.unset : Minimum := ⟨intMax, unsignedMax⟩

/-- One `if (edge.forward && edge.weight < min_forward_weight)` of the inner loop. -/
def Minimum.update (minimum : Minimum) (takes : Bool) (weight : Int) (index : Nat) : Minimum :=
  if takes = true ∧ weight < minimum.weight then ⟨weight, index⟩ else minimum

/-- The inner `while` that scans the run of `source -> target`, reading `all_edges_list[index]` as
the head of `rest`. It returns the index after the run and the two minima. -/
def scanGroup (source target : Nat) :
    List NodeBasedEdge → Nat → Minimum → Minimum → Except EdgeError (Nat × Minimum × Minimum)
  | [], index, _, _ => .error (.readPastEnd index)
  | edge :: rest, index, forward, backward =>
    if edge.source = source ∧ edge.target = target then
      scanGroup source target rest (index + 1) (forward.update edge.forward edge.weight index)
        (backward.update edge.backward edge.weight index)
    else .ok (index, forward, backward)

/-- The flags written on the kept edges of a run. -/
def keepMinima (edges : List NodeBasedEdge) (forward backward : Minimum) :
    Except EdgeError (List NodeBasedEdge) :=
  if backward.idx = forward.idx then
    modifyAt edges forward.idx fun edge =>
      { edge with isSplit := false, forward := true, backward := true }
  else do
    let hasForward := forward.idx != unsignedMax
    let hasBackward := backward.idx != unsignedMax
    let edges ← if hasForward then
        modifyAt edges forward.idx fun edge =>
          { edge with forward := true, backward := false, isSplit := hasBackward }
      else pure edges
    if hasBackward then
      modifyAt edges backward.idx fun edge =>
        { edge with source := edge.target, target := edge.source, forward := true,
                    backward := false, isSplit := hasForward }
    else pure edges

/-- The loop `for (j = start_idx; j < i; j++)` that invalidates the unused edges of a run, from
`j` on with `count` indices left. -/
def invalidateUnused (specialNodeId : Nat) (forward backward : Minimum) :
    List NodeBasedEdge → Nat → Nat → Except EdgeError (List NodeBasedEdge)
  | edges, _, 0 => .ok edges
  | edges, j, count + 1 =>
    if j = forward.idx ∨ j = backward.idx then
      invalidateUnused specialNodeId forward backward edges (j + 1) count
    else do
      let edges ← modifyAt edges j fun edge =>
        { edge with source := specialNodeId, target := specialNodeId }
      invalidateUnused specialNodeId forward backward edges (j + 1) count

/-- The outer `for (i = 0; i < all_edges_list.size();)` loop, with `fuel` iterations left. -/
def removeDuplicates (specialNodeId : Nat) :
    Nat → List NodeBasedEdge → Nat → Except EdgeError (List NodeBasedEdge)
  | 0, _, _ => .error .outOfFuel
  | fuel + 1, edges, i =>
    if i < edges.length then do
      let edge ← readAt edges i
      if edge.source = specialNodeId then pure edges
      else if edge.target = specialNodeId then removeDuplicates specialNodeId fuel edges (i + 1)
      else
        let (next, forward, backward) ←
          scanGroup edge.source edge.target (edges.drop i) i Minimum.unset Minimum.unset
        let edges ← keepMinima edges forward backward
        let edges ← invalidateUnused specialNodeId forward backward edges i (next - i)
        removeDuplicates specialNodeId fuel edges next
    else pure edges

/-- The duplicate removal of `PrepareEdges`, with one iteration more than the vector has edges. -/
def removeDuplicateEdges (specialNodeId : Nat) (edges : List NodeBasedEdge) :
    Except EdgeError (List NodeBasedEdge) :=
  removeDuplicates specialNodeId (edges.length + 1) edges 0

/-! ### Accesses and the inner loop -/

/-- The `(source, target)` pair that groups parallel edges. -/
def pairOf (edge : NodeBasedEdge) : Nat × Nat := (edge.source, edge.target)

theorem ok_bind {α β : Type} (value : α) (next : α → Except EdgeError β) :
    (Except.ok value >>= next) = next value := rfl

theorem readAt_of_getElem? {edges : List NodeBasedEdge} {index : Nat} {edge : NodeBasedEdge}
    (found : edges[index]? = some edge) : readAt edges index = .ok edge := by
  simp [readAt, found]

/-- A write inside the vector changes only its own element. -/
theorem modifyAt_of_lt {edges : List NodeBasedEdge} {index : Nat}
    (update : NodeBasedEdge → NodeBasedEdge) (inside : index < edges.length) :
    modifyAt edges index update =
      .ok (edges.mapIdx fun j edge => if j = index then update edge else edge) := by
  simp only [modifyAt, List.getElem?_eq_getElem inside]
  congr 1
  refine (List.mapIdx_eq_iff.mpr fun j => ?_).symm
  rw [List.getElem?_set']
  by_cases same : index = j
  · subst same
    simp [List.getElem?_eq_getElem inside]
  · simp [same, Ne.symm same]

/-- The minimum that a scan over `run` from `index` on keeps for one direction. -/
def scanMinimum (takes : NodeBasedEdge → Bool) : List NodeBasedEdge → Nat → Minimum → Minimum
  | [], _, minimum => minimum
  | edge :: run, index, minimum =>
    scanMinimum takes run (index + 1) (minimum.update (takes edge) edge.weight index)

/-- The inner `while` reads the run of its pair and then either the first edge of another pair,
or the element past the end. -/
theorem scanGroup_eq (source target : Nat) (rest : List NodeBasedEdge) (index : Nat)
    (forward backward : Minimum) :
    ∃ run after, rest = run ++ after ∧
      (∀ edge ∈ run, edge.source = source ∧ edge.target = target) ∧
      (after = [] ∧ scanGroup source target rest index forward backward =
          .error (.readPastEnd (index + run.length)) ∨
        ∃ edge tail, after = edge :: tail ∧ ¬(edge.source = source ∧ edge.target = target) ∧
          scanGroup source target rest index forward backward =
            .ok (index + run.length, scanMinimum (·.forward) run index forward,
              scanMinimum (·.backward) run index backward)) := by
  induction rest generalizing index forward backward with
  | nil => exact ⟨[], [], rfl, by simp, .inl ⟨rfl, rfl⟩⟩
  | cons edge rest ih =>
    by_cases same : edge.source = source ∧ edge.target = target
    · obtain ⟨run, after, split, inside, ending⟩ := ih (index + 1)
        (forward.update edge.forward edge.weight index)
        (backward.update edge.backward edge.weight index)
      refine ⟨edge :: run, after, by rw [split, List.cons_append], ?_, ?_⟩
      · intro other member
        rcases List.mem_cons.mp member with rfl | member
        exacts [same, inside other member]
      · simp only [scanGroup, if_pos same, List.length_cons, scanMinimum]
        rw [show index + (run.length + 1) = index + 1 + run.length by omega]
        exact ending
    · exact ⟨[], edge :: rest, rfl, by simp,
        .inr ⟨edge, rest, rfl, same, by simp [scanGroup, same, scanMinimum]⟩⟩

theorem scanMinimum_append_singleton (takes : NodeBasedEdge → Bool) (run : List NodeBasedEdge)
    (edge : NodeBasedEdge) (index : Nat) (minimum : Minimum) :
    scanMinimum takes (run ++ [edge]) index minimum =
      (scanMinimum takes run index minimum).update (takes edge) edge.weight
        (index + run.length) := by
  induction run generalizing index minimum with
  | nil => rfl
  | cons head run ih =>
    rw [List.cons_append, scanMinimum, scanMinimum, ih, List.length_cons,
      show index + 1 + run.length = index + (run.length + 1) by omega]

/-- `edge`, at position `position`, is lighter than every taken edge before it and no heavier than
every taken edge after it. -/
def FirstLighter (takes : NodeBasedEdge → Bool) (edges : List NodeBasedEdge) (position : Nat)
    (edge : NodeBasedEdge) : Prop :=
  ∀ k other, edges[k]? = some other → takes other = true →
    edge.weight < other.weight ∨ position ≤ k ∧ edge.weight ≤ other.weight

theorem lt_of_getElem? {edges : List NodeBasedEdge} {k : Nat} {edge : NodeBasedEdge}
    (found : edges[k]? = some edge) : k < edges.length :=
  Nat.not_le.mp fun past => by rw [List.getElem?_eq_none past] at found; cases found

theorem getElem?_append_singleton {run : List NodeBasedEdge} {last : NodeBasedEdge} {k : Nat}
    {edge : NodeBasedEdge} (found : (run ++ [last])[k]? = some edge) :
    run[k]? = some edge ∨ k = run.length ∧ edge = last := by
  rcases Nat.lt_or_ge k run.length with before | after
  · exact .inl (by rwa [List.getElem?_append_left before] at found)
  · rw [List.getElem?_append_right after] at found
    cases past : k - run.length with
    | zero =>
      rw [past] at found
      exact .inr ⟨by omega, (Option.some.inj found).symm⟩
    | succ d =>
      rw [past] at found
      cases found

/-- A scan from the unset minimum keeps either nothing, when no edge is taken, or the first taken
edge of least weight, provided every taken weight is below `INT_MAX`. -/
theorem scanMinimum_unset (takes : NodeBasedEdge → Bool) (run : List NodeBasedEdge) (index : Nat)
    (light : ∀ edge ∈ run, takes edge = true → edge.weight < intMax) :
    (scanMinimum takes run index .unset = .unset ∧ ∀ edge ∈ run, takes edge = false) ∨
      ∃ k edge, run[k]? = some edge ∧ takes edge = true ∧ FirstLighter takes run k edge ∧
        scanMinimum takes run index .unset = ⟨edge.weight, index + k⟩ := by
  induction run using List.reverseRecOn with
  | nil => exact .inl ⟨rfl, by simp⟩
  | append_singleton run last ih =>
    rw [scanMinimum_append_singleton]
    have lastLight := light last (by simp)
    rcases ih fun edge member => light edge (List.mem_append_left _ member) with
      ⟨unset, untaken⟩ | ⟨k, edge, found, taken, lighter, current⟩
    · rw [unset]
      by_cases takesLast : takes last = true
      · refine .inr ⟨run.length, last, by simp, takesLast, fun k other found' takes' => ?_,
          by simp [Minimum.update, Minimum.unset, takesLast, lastLight takesLast]⟩
        rcases getElem?_append_singleton found' with found' | ⟨rfl, rfl⟩
        · rw [untaken other (List.getElem?_mem found')] at takes'
          cases takes'
        · exact .inr ⟨Nat.le_refl _, Int.le_refl _⟩
      · refine .inl ⟨by simp [Minimum.update, takesLast], fun other member => ?_⟩
        rcases List.mem_append.mp member with member | member
        · exact untaken other member
        · rw [List.mem_singleton.mp member]
          simpa using takesLast
    · rw [current]
      by_cases better : takes last = true ∧ last.weight < edge.weight
      · refine .inr ⟨run.length, last, by simp, better.1, fun k' other found' takes' => ?_,
          by simp [Minimum.update, better]⟩
        rcases getElem?_append_singleton found' with found' | ⟨rfl, rfl⟩
        · rcases lighter k' other found' takes' with lighter | lighter
          · exact .inl (Int.lt_trans better.2 lighter)
          · exact .inl (Int.lt_of_lt_of_le better.2 lighter.2)
        · exact .inr ⟨Nat.le_refl _, Int.le_refl _⟩
      · have before : k < run.length := lt_of_getElem? found
        refine .inr ⟨k, edge, by rw [List.getElem?_append_left before, found], taken,
          fun k' other found' takes' => ?_, by simp only [Minimum.update, if_neg better]⟩
        rcases getElem?_append_singleton found' with found' | ⟨rfl, rfl⟩
        · exact lighter k' other found' takes'
        · exact .inr ⟨Nat.le_of_lt before, Int.not_lt.mp fun heavier => better ⟨takes', heavier⟩⟩

/-! ### Writing a run -/

/-- What the removal makes of a valid edge: `isForward` and `isBackward` say whether it is the
first least-weight forward and backward edge of its pair, `hasForward` and `hasBackward` whether
the pair has a forward and a backward edge at all. -/
def resolveEdge (specialNodeId : Nat) (isForward isBackward hasForward hasBackward : Bool)
    (edge : NodeBasedEdge) : NodeBasedEdge :=
  if isForward && isBackward then { edge with isSplit := false, forward := true, backward := true }
  else if isForward then { edge with forward := true, backward := false, isSplit := hasBackward }
  else if isBackward then
    { edge with source := edge.target, target := edge.source, forward := true, backward := false,
                isSplit := hasForward }
  else { edge with source := specialNodeId, target := specialNodeId }

section Run

variable (specialNodeId : Nat) (forward backward : Minimum)

/-- A minimum that is set points inside the vector. -/
def Minimum.Inside (minimum : Minimum) (length : Nat) : Prop :=
  minimum.idx = unsignedMax ∨ minimum.idx < length

/-- `keepMinima` rewrites the kept edges as `resolveEdge` says and leaves the others. -/
theorem keepMinima_eq (edges : List NodeBasedEdge) (forwardInside : forward.Inside edges.length)
    (backwardInside : backward.Inside edges.length)
    (set : forward.idx ≠ unsignedMax ∨ backward.idx ≠ unsignedMax)
    (short : edges.length ≤ unsignedMax) :
    keepMinima edges forward backward = .ok (edges.mapIdx fun j edge =>
      if j = forward.idx ∨ j = backward.idx then
        resolveEdge specialNodeId (j == forward.idx) (j == backward.idx)
          (forward.idx != unsignedMax) (backward.idx != unsignedMax) edge
      else edge) := by
  have valid : ∀ j < edges.length, j ≠ unsignedMax := fun j below => by omega
  unfold keepMinima
  by_cases same : backward.idx = forward.idx
  · have forwardSet : forward.idx ≠ unsignedMax := by
      rcases set with set | set
      exacts [set, same ▸ set]
    rw [if_pos same, modifyAt_of_lt _ (forwardInside.resolve_left forwardSet)]
    refine congrArg _ (List.mapIdx_eq_mapIdx_iff.mpr fun j _ => ?_)
    by_cases here : j = forward.idx <;> simp [here, same, resolveEdge]
  rw [if_neg same]
  by_cases forwardSet : forward.idx = unsignedMax
  · have backwardSet : backward.idx ≠ unsignedMax := set.resolve_left (not_not.mpr forwardSet)
    simp only [forwardSet, bne_self_eq_false, Bool.false_eq_true, if_false, pure_bind,
      bne_iff_ne, ne_eq, backwardSet, not_false_eq_true, if_true,
      modifyAt_of_lt _ (backwardInside.resolve_left backwardSet)]
    refine congrArg _ (List.mapIdx_eq_mapIdx_iff.mpr fun j below => ?_)
    by_cases here : j = backward.idx <;> simp [here, valid j below, backwardSet, resolveEdge]
  by_cases backwardSet : backward.idx = unsignedMax
  · simp only [backwardSet, bne_self_eq_false, Bool.false_eq_true, if_false, bind_pure,
      bne_iff_ne, ne_eq, forwardSet, not_false_eq_true, if_true,
      modifyAt_of_lt _ (forwardInside.resolve_left forwardSet)]
    refine congrArg _ (List.mapIdx_eq_mapIdx_iff.mpr fun j below => ?_)
    by_cases here : j = forward.idx <;> simp [here, valid j below, forwardSet, resolveEdge]
  simp only [bne_iff_ne, ne_eq, forwardSet, backwardSet, not_false_eq_true, if_true,
    modifyAt_of_lt _ (forwardInside.resolve_left forwardSet)]
  simp only [bind, Except.bind]
  rw [modifyAt_of_lt _ (by simpa using backwardInside.resolve_left backwardSet), List.mapIdx_mapIdx]
  refine congrArg _ (List.mapIdx_eq_mapIdx_iff.mpr fun j below => ?_)
  by_cases forwardHere : j = forward.idx
  · simp [forwardHere, forwardSet, backwardSet, Ne.symm same, resolveEdge]
  · by_cases backwardHere : j = backward.idx <;>
      simp [forwardHere, backwardHere, forwardSet, backwardSet, same, resolveEdge]

/-- The invalidation loop sets both ends of every edge of `[j, j + count)` that is not kept. -/
theorem invalidateUnused_eq (edges : List NodeBasedEdge) (j count : Nat)
    (fits : j + count ≤ edges.length) :
    invalidateUnused specialNodeId forward backward edges j count =
      .ok (edges.mapIdx fun k edge =>
        if j ≤ k ∧ k < j + count ∧ ¬(k = forward.idx ∨ k = backward.idx) then
          { edge with source := specialNodeId, target := specialNodeId }
        else edge) := by
  induction count generalizing j edges with
  | zero =>
    refine congrArg _ (List.mapIdx_eq_iff.mpr fun k => ?_).symm
    cases edges[k]? <;> simp only [Option.map_none', Option.map_some']
    rw [if_neg (by omega)]
  | succ count ih =>
    unfold invalidateUnused
    by_cases kept : j = forward.idx ∨ j = backward.idx
    · rw [if_pos kept, ih edges (j + 1) (by omega)]
      refine congrArg _ (List.mapIdx_eq_mapIdx_iff.mpr fun k _ => ?_)
      by_cases here : k = j
      · subst here
        rw [if_neg (by omega), if_neg (by omega)]
      · exact if_congr (by omega) rfl rfl
    · rw [if_neg kept, modifyAt_of_lt _ (by omega)]
      simp only [bind, Except.bind]
      rw [ih _ (j + 1) (by simpa using (by omega : j + 1 + count ≤ edges.length)),
        List.mapIdx_mapIdx]
      refine congrArg _ (List.mapIdx_eq_mapIdx_iff.mpr fun k _ => ?_)
      by_cases here : k = j
      · subst here
        simp only [Function.comp_apply, if_true]
        rw [if_neg (by omega), if_pos ⟨Nat.le_refl _, by omega, kept⟩]
      · simp only [Function.comp_apply, if_neg here]
        exact if_congr (by omega) rfl rfl

/-- Both writes of a run together: every edge of `[i, i + count)` becomes what `resolveEdge` makes
of it, and the others stay. -/
theorem resolveRun_eq (edges : List NodeBasedEdge) (i count : Nat)
    (forwardInside : forward.idx = unsignedMax ∨ i ≤ forward.idx ∧ forward.idx < i + count)
    (backwardInside : backward.idx = unsignedMax ∨ i ≤ backward.idx ∧ backward.idx < i + count)
    (set : forward.idx ≠ unsignedMax ∨ backward.idx ≠ unsignedMax)
    (fits : i + count ≤ edges.length) (short : edges.length ≤ unsignedMax) :
    (keepMinima edges forward backward >>= fun kept =>
        invalidateUnused specialNodeId forward backward kept i count) =
      .ok (edges.mapIdx fun j edge =>
        if i ≤ j ∧ j < i + count then
          resolveEdge specialNodeId (j == forward.idx) (j == backward.idx)
            (forward.idx != unsignedMax) (backward.idx != unsignedMax) edge
        else edge) := by
  rw [keepMinima_eq specialNodeId forward backward edges
      (forwardInside.imp_right fun inside => by omega)
      (backwardInside.imp_right fun inside => by omega) set short]
  simp only [bind, Except.bind]
  rw [invalidateUnused_eq _ _ _ _ _ _ (by simpa using fits), List.mapIdx_mapIdx]
  refine congrArg _ (List.mapIdx_eq_mapIdx_iff.mpr fun j below => ?_)
  have valid : j ≠ unsignedMax := by omega
  simp only [Function.comp_apply]
  by_cases window : i ≤ j ∧ j < i + count
  · rw [if_pos window]
    by_cases kept : j = forward.idx ∨ j = backward.idx
    · rw [if_pos kept, if_neg (fun invalid => invalid.2.2 kept)]
    · rw [if_neg kept, if_pos ⟨window.1, window.2, kept⟩]
      simp only [not_or] at kept
      simp [resolveEdge, kept.1, kept.2]
  · have outside : ¬(j = forward.idx ∨ j = backward.idx) := by omega
    rw [if_neg window, if_neg outside, if_neg (by omega)]

end Run

/-! ### The outer loop -/

section Loop

variable {specialNodeId : Nat} {edges : List NodeBasedEdge} {i : Nat} {edge : NodeBasedEdge}

theorem removeDuplicates_done (fuel : Nat) (past : edges.length ≤ i) :
    removeDuplicates specialNodeId (fuel + 1) edges i = .ok edges := by
  simp only [removeDuplicates, if_neg (Nat.not_lt.mpr past)]
  rfl

theorem removeDuplicates_break (fuel : Nat) (found : edges[i]? = some edge)
    (stops : edge.source = specialNodeId) :
    removeDuplicates specialNodeId (fuel + 1) edges i = .ok edges := by
  simp only [removeDuplicates, if_pos (lt_of_getElem? found), readAt_of_getElem? found, ok_bind,
    if_pos stops]
  rfl

theorem removeDuplicates_skip (fuel : Nat) (found : edges[i]? = some edge)
    (source : edge.source ≠ specialNodeId) (skips : edge.target = specialNodeId) :
    removeDuplicates specialNodeId (fuel + 1) edges i =
      removeDuplicates specialNodeId fuel edges (i + 1) := by
  simp only [removeDuplicates, if_pos (lt_of_getElem? found), readAt_of_getElem? found, ok_bind,
    if_neg source, if_pos skips]

/-- One iteration on a valid edge: the scan finds its run, and either reads past the end or
resolves the run and continues after it. -/
theorem removeDuplicates_group (fuel : Nat) (found : edges[i]? = some edge)
    (source : edge.source ≠ specialNodeId) (target : edge.target ≠ specialNodeId)
    (light : ∀ other ∈ edges.drop i, other.weight < intMax)
    (directed : edge.forward = true ∨ edge.backward = true)
    (short : edges.length ≤ unsignedMax) :
    ∃ run after, edges.drop i = run ++ after ∧ run ≠ [] ∧
      (∀ other ∈ run, pairOf other = pairOf edge) ∧
      (after = [] ∧ removeDuplicates specialNodeId (fuel + 1) edges i =
          .error (.readPastEnd edges.length) ∨
        ∃ other tail, after = other :: tail ∧ pairOf other ≠ pairOf edge ∧
          removeDuplicates specialNodeId (fuel + 1) edges i =
            removeDuplicates specialNodeId fuel (edges.mapIdx fun j edge =>
              if i ≤ j ∧ j < i + run.length then
                resolveEdge specialNodeId (j == (scanMinimum (·.forward) run i .unset).idx)
                  (j == (scanMinimum (·.backward) run i .unset).idx)
                  ((scanMinimum (·.forward) run i .unset).idx != unsignedMax)
                  ((scanMinimum (·.backward) run i .unset).idx != unsignedMax) edge
              else edge) (i + run.length)) := by
  obtain ⟨run, after, split, inside, ending⟩ :=
    scanGroup_eq edge.source edge.target (edges.drop i) i .unset .unset
  have head : (edges.drop i).head? = some edge := by
    rw [List.head?_drop, found]
  have nonempty : run ≠ [] := by
    rintro rfl
    rcases ending with ⟨rfl, -⟩ | ⟨other, tail, rfl, differs, -⟩
    · simp [split] at head
    · simp only [split, List.nil_append, List.head?_cons, Option.some.injEq] at head
      exact differs (head ▸ ⟨rfl, rfl⟩)
  have length : i + run.length + after.length = edges.length := by
    have := congrArg List.length split
    simp only [List.length_drop, List.length_append] at this
    have := lt_of_getElem? found
    omega
  refine ⟨run, after, split, nonempty, fun other member => ?_, ?_⟩
  · simp [pairOf, inside other member]
  have unfolds : removeDuplicates specialNodeId (fuel + 1) edges i =
      (scanGroup edge.source edge.target (edges.drop i) i .unset .unset >>= fun scanned =>
        (keepMinima edges scanned.2.1 scanned.2.2 >>= fun kept =>
          invalidateUnused specialNodeId scanned.2.1 scanned.2.2 kept i (scanned.1 - i)) >>=
            fun resolved => removeDuplicates specialNodeId fuel resolved scanned.1) := by
    simp only [removeDuplicates, if_pos (lt_of_getElem? found), readAt_of_getElem? found,
      ok_bind, if_neg source, if_neg target, bind_assoc]
  rcases ending with ⟨rfl, scan⟩ | ⟨other, tail, rfl, differs, scan⟩
  · left
    refine ⟨rfl, ?_⟩
    rw [unfolds, scan]
    simp only [List.length_nil] at length
    rw [← length, Nat.add_zero]
    rfl
  right
  refine ⟨other, tail, rfl, fun same => differs ⟨congrArg Prod.fst same, congrArg Prod.snd same⟩, ?_⟩
  have runLight : ∀ takes : NodeBasedEdge → Bool, ∀ other ∈ run, takes other = true →
      other.weight < intMax := fun _ other member _ =>
    light other (split ▸ List.mem_append_left _ member)
  have minimumInside : ∀ takes : NodeBasedEdge → Bool,
      (scanMinimum takes run i .unset).idx = unsignedMax ∧ (∀ other ∈ run, takes other = false) ∨
        i ≤ (scanMinimum takes run i .unset).idx ∧
          (scanMinimum takes run i .unset).idx < i + run.length := by
    intro takes
    rcases scanMinimum_unset takes run i (runLight takes) with ⟨unset, untaken⟩ | ⟨k, _, found', -, -, kept⟩
    · exact .inl ⟨by rw [unset]; rfl, untaken⟩
    · exact .inr (by rw [kept]; have := lt_of_getElem? found'; exact ⟨by simp, by simp; omega⟩)
  have first : edge ∈ run := by
    obtain ⟨first, rest, rfl⟩ := List.exists_cons_of_ne_nil nonempty
    simp only [split, List.cons_append, List.head?_cons, Option.some.injEq] at head
    exact head ▸ List.mem_cons_self _ _
  have set : (scanMinimum (·.forward) run i .unset).idx ≠ unsignedMax ∨
      (scanMinimum (·.backward) run i .unset).idx ≠ unsignedMax := by
    rcases minimumInside (·.forward) with ⟨-, noForward⟩ | forwardInside
    · rcases minimumInside (·.backward) with ⟨-, noBackward⟩ | backwardInside
      · rcases directed with directed | directed
        · exact absurd directed (by simp [noForward edge first])
        · exact absurd directed (by simp [noBackward edge first])
      · exact .inr (by omega)
    · exact .inl (by omega)
  rw [unfolds, scan, ok_bind]
  dsimp only
  rw [Nat.add_sub_cancel_left, resolveRun_eq specialNodeId _ _ edges i run.length
    ((minimumInside _).imp_left And.left) ((minimumInside _).imp_left And.left) set
    (by omega) short, ok_bind]

/-- A window update leaves the indices outside the window. -/
theorem getElem?_mapIdx_outside (update : Nat → NodeBasedEdge → NodeBasedEdge) {n j : Nat}
    (outside : ¬(i ≤ j ∧ j < i + n)) :
    (edges.mapIdx fun k edge => if i ≤ k ∧ k < i + n then update k edge else edge)[j]? =
      edges[j]? := by
  simp [List.getElem?_mapIdx, outside]

theorem drop_eq_of_agrees {original : List NodeBasedEdge}
    (agrees : ∀ j, i ≤ j → edges[j]? = original[j]?) : edges.drop i = original.drop i :=
  List.ext_getElem? fun k => by
    rw [List.getElem?_drop, List.getElem?_drop, agrees _ (Nat.le_add_right _ _)]

end Loop

/-! ### A vector whose last run is valid -/

section PastEnd

variable {specialNodeId : Nat} {edges : List NodeBasedEdge} (last : NodeBasedEdge)
  (ends : edges.getLast? = some last) (lastValid : last.target ≠ specialNodeId)
  (sources : ∀ edge ∈ edges, edge.source ≠ specialNodeId)
  (light : ∀ edge ∈ edges, edge.weight < intMax)
  (directed : ∀ edge ∈ edges, edge.target ≠ specialNodeId →
    edge.forward = true ∨ edge.backward = true)
  (short : edges.length ≤ unsignedMax)
include ends lastValid sources light directed short

/-- From any position inside the vector, with the rest of the vector untouched, the loop ends by
reading past the end. -/
theorem removeDuplicates_reads_past_end (fuel : Nat) :
    ∀ (current : List NodeBasedEdge) (i : Nat), current.length = edges.length →
      i < edges.length → (∀ j, i ≤ j → current[j]? = edges[j]?) → edges.length - i < fuel →
      removeDuplicates specialNodeId fuel current i = .error (.readPastEnd edges.length) := by
  induction fuel with
  | zero => intro _ _ _ _ _ enough; omega
  | succ fuel ih =>
    intro current i length inside agrees enough
    have member : edges[i] ∈ edges := List.getElem_mem inside
    have found : current[i]? = some edges[i] :=
      (agrees i (Nat.le_refl _)).trans (List.getElem?_eq_getElem inside)
    by_cases target : edges[i].target = specialNodeId
    · rw [removeDuplicates_skip fuel found (sources _ member) target]
      have notLast : i + 1 < edges.length := by
        refine Nat.lt_of_le_of_ne inside fun atLast => lastValid ?_
        rw [List.getLast?_eq_getElem?, ← atLast, Nat.add_sub_cancel,
          List.getElem?_eq_getElem inside, Option.some.injEq] at ends
        exact ends ▸ target
      exact ih current (i + 1) length notLast (fun j later => agrees j (by omega)) (by omega)
    have dropped := drop_eq_of_agrees agrees
    obtain ⟨run, after, split, nonempty, -, ending⟩ := removeDuplicates_group fuel found
      (sources _ member) target
      (fun other member => light other (List.mem_of_mem_drop (dropped ▸ member)))
      (directed _ member target) (length ▸ short)
    rcases ending with ⟨-, reads⟩ | ⟨other, tail, rfl, -, continues⟩
    · rw [reads, length]
    have before : i + run.length < edges.length := by
      have := congrArg List.length split
      simp only [List.length_drop, List.length_append, List.length_cons] at this
      omega
    rw [continues]
    exact ih _ _ (by rw [List.length_mapIdx, length]) before
      (fun j later => by rw [getElem?_mapIdx_outside _ (by omega), agrees j (by omega)])
      (by have := List.length_pos.mpr nonempty; omega)

/-- On a vector without a `SPECIAL_NODEID` source whose last edge is valid, the inner `while` of
the last run reads `all_edges_list[all_edges_list.size()]`. -/
theorem removeDuplicateEdges_reads_past_end :
    removeDuplicateEdges specialNodeId edges = .error (.readPastEnd edges.length) :=
  removeDuplicates_reads_past_end last ends lastValid sources light directed short _ edges 0 rfl
    (List.length_pos_of_ne_nil fun empty => by simp [empty] at ends) (fun _ _ => rfl)
    (by omega)

end PastEnd

theorem removeDuplicateEdges_single_edge :
    ([⟨0, 1, 0, 10, true, false, false⟩] : List NodeBasedEdge).getLast? =
        some ⟨0, 1, 0, 10, true, false, false⟩ ∧
      (1 : Nat) ≠ unsignedMax ∧
      (∀ edge ∈ ([⟨0, 1, 0, 10, true, false, false⟩] : List NodeBasedEdge),
        edge.source ≠ unsignedMax) ∧
      (∀ edge ∈ ([⟨0, 1, 0, 10, true, false, false⟩] : List NodeBasedEdge),
        edge.weight < intMax) ∧
      (∀ edge ∈ ([⟨0, 1, 0, 10, true, false, false⟩] : List NodeBasedEdge),
        edge.target ≠ unsignedMax → edge.forward = true ∨ edge.backward = true) ∧
      ([⟨0, 1, 0, 10, true, false, false⟩] : List NodeBasedEdge).length ≤ unsignedMax ∧
      removeDuplicateEdges unsignedMax [⟨0, 1, 0, 10, true, false, false⟩] =
        .error (.readPastEnd 1) :=
  ⟨rfl, by decide, by decide, by decide, by decide, by decide,
    removeDuplicateEdges_reads_past_end _ rfl (by decide) (by decide) (by decide) (by decide)
      (by decide)⟩


/-- A group whose edges all weigh `INT_MAX` keeps no minimum: both indices stay at
`std::numeric_limits<unsigned>::max()`, they compare equal, and the loop writes
`all_edges_list[4294967295]`. -/
theorem removeDuplicateEdges_max_weight :
    removeDuplicateEdges unsignedMax
        [⟨0, 1, 0, intMax, true, false, false⟩, ⟨unsignedMax, unsignedMax, 0, 1, true, false, false⟩] =
      .error (.writePastEnd unsignedMax) := rfl


/-! ### The result on a sorted vector -/

/-- Whether `edge` has the pair `pair` and goes in `direction`. -/
def takesIn (direction : NodeBasedEdge → Bool) (pair : Nat × Nat) (edge : NodeBasedEdge) : Bool :=
  decide (pairOf edge = pair) && direction edge

/-- Whether `edges[j]` is taken and lighter than every taken edge before it and no heavier than
every taken edge after it. -/
def isFirstMinimum (takes : NodeBasedEdge → Bool) (edges : List NodeBasedEdge) (j : Nat) : Bool :=
  match edges[j]? with
  | none => false
  | some edge => takes edge && (List.range edges.length).all fun k =>
    match edges[k]? with
    | none => true
    | some other =>
      !takes other || decide (edge.weight < other.weight ∨ j ≤ k ∧ edge.weight ≤ other.weight)

/-- The vector the removal is meant to leave: invalid edges stay, and every valid edge becomes
what `resolveEdge` makes of it from the first least-weight edges of its pair in both
directions. -/
def resolveParallelEdges (specialNodeId : Nat) (edges : List NodeBasedEdge) :
    List NodeBasedEdge :=
  edges.mapIdx fun j edge =>
    if edge.source = specialNodeId ∨ edge.target = specialNodeId then edge
    else resolveEdge specialNodeId
      (isFirstMinimum (takesIn (·.forward) (pairOf edge)) edges j)
      (isFirstMinimum (takesIn (·.backward) (pairOf edge)) edges j)
      (edges.any (takesIn (·.forward) (pairOf edge)))
      (edges.any (takesIn (·.backward) (pairOf edge))) edge

theorem isFirstMinimum_iff {takes : NodeBasedEdge → Bool} {edges : List NodeBasedEdge} {j : Nat} :
    isFirstMinimum takes edges j = true ↔
      ∃ edge, edges[j]? = some edge ∧ takes edge = true ∧ FirstLighter takes edges j edge := by
  unfold isFirstMinimum FirstLighter
  cases found : edges[j]? with
  | none => simp
  | some edge =>
    simp only [Bool.and_eq_true, List.all_eq_true, List.mem_range, Option.some.injEq,
      exists_eq_left']
    refine and_congr_right fun _ => ⟨fun all k other found' takes' => ?_, fun lighter k _ => ?_⟩
    · have := all k (lt_of_getElem? found')
      rw [found'] at this
      simpa [takes'] using this
    · cases found' : edges[k]? with
      | none => rfl
      | some other =>
        cases takes' : takes other
        · simp [takes']
        · simp [lighter k other found' takes']

theorem firstLighter_unique {takes : NodeBasedEdge → Bool} {edges : List NodeBasedEdge}
    {a b : Nat} {first second : NodeBasedEdge} (foundFirst : edges[a]? = some first)
    (foundSecond : edges[b]? = some second) (takesFirst : takes first = true)
    (takesSecond : takes second = true) (lighterFirst : FirstLighter takes edges a first)
    (lighterSecond : FirstLighter takes edges b second) : a = b := by
  rcases lighterFirst b second foundSecond takesSecond with one | one <;>
    rcases lighterSecond a first foundFirst takesFirst with other | other <;> omega

/-- Inside a run that holds every edge of its pair, the scan's minimum is the first least-weight
edge of the pair in the whole vector, and it is set exactly when the pair has an edge in that
direction. -/
theorem groupMinimum (direction : NodeBasedEdge → Bool) (pair : Nat × Nat)
    (edges run : List NodeBasedEdge) (i : Nat)
    (window : ∀ k < run.length, edges[i + k]? = run[k]?)
    (pairs : ∀ edge ∈ run, pairOf edge = pair)
    (group : ∀ j edge, edges[j]? = some edge → pairOf edge = pair → i ≤ j ∧ j < i + run.length)
    (light : ∀ edge ∈ run, edge.weight < intMax) (short : i + run.length ≤ unsignedMax) :
    (∀ j, i ≤ j → j < i + run.length →
      isFirstMinimum (takesIn direction pair) edges j =
        (j == (scanMinimum direction run i .unset).idx)) ∧
      edges.any (takesIn direction pair) =
        ((scanMinimum direction run i .unset).idx != unsignedMax) := by
  have inRun : ∀ j edge, edges[j]? = some edge → pairOf edge = pair →
      run[j - i]? = some edge ∧ i ≤ j ∧ j < i + run.length := by
    intro j edge found same
    obtain ⟨low, high⟩ := group j edge found same
    refine ⟨?_, low, high⟩
    rw [← window (j - i) (by omega), Nat.add_sub_cancel' low]
    exact found
  have takesRun : ∀ edge ∈ run, takesIn direction pair edge = direction edge :=
    fun edge member => by simp [takesIn, pairs edge member]
  rcases scanMinimum_unset direction run i (fun edge member _ => light edge member) with
    ⟨unset, untaken⟩ | ⟨k, edge, found, taken, lighter, kept⟩
  · have never : ∀ (j : Nat) edge, edges[j]? = some edge → takesIn direction pair edge = false := by
      intro j edge found
      by_cases same : pairOf edge = pair
      · have member := List.getElem?_mem (inRun j edge found same).1
        rw [takesRun edge member]
        exact untaken edge member
      · simp [takesIn, same]
    rw [unset]
    refine ⟨fun j low high => ?_, ?_⟩
    · rw [show (j == Minimum.unset.idx) = false from beq_false_of_ne (by
        show j ≠ unsignedMax; omega), Bool.eq_false_iff]
      intro first
      obtain ⟨edge, found, taken, -⟩ := isFirstMinimum_iff.mp first
      rw [never j edge found] at taken
      cases taken
    · rw [show (Minimum.unset.idx != unsignedMax) = false from bne_self_eq_false _,
        List.any_eq_false]
      intro edge member taken
      obtain ⟨j, found⟩ := List.mem_iff_getElem?.mp member
      rw [never j edge found] at taken
      cases taken
  · rw [kept]
    have position : edges[i + k]? = some edge := (window k (lt_of_getElem? found)).trans found
    have takenHere : takesIn direction pair edge = true := by
      rw [takesRun edge (List.getElem?_mem found)]
      exact taken
    have lighterHere : FirstLighter (takesIn direction pair) edges (i + k) edge := by
      intro k' other found' takes'
      have same : pairOf other = pair := by
        simp only [takesIn, Bool.and_eq_true, decide_eq_true_eq] at takes'
        exact takes'.1
      obtain ⟨inside, low, -⟩ := inRun k' other found' same
      have := lighter (k' - i) other inside
        (by rwa [← takesRun other (List.getElem?_mem inside)])
      omega
    have firstHere := isFirstMinimum_iff.mpr ⟨edge, position, takenHere, lighterHere⟩
    refine ⟨fun j low high => ?_, ?_⟩
    · by_cases here : j = i + k
      · rw [here, firstHere]
        exact (beq_self_eq_true _).symm
      · rw [beq_false_of_ne here, Bool.eq_false_iff]
        intro first
        obtain ⟨other, found', taken', lighter'⟩ := isFirstMinimum_iff.mp first
        exact here (firstLighter_unique found' position taken' takenHere lighter' lighterHere)
    · have : i + k ≠ unsignedMax := by
        have := lt_of_getElem? found
        omega
      rw [bne_iff_ne.mpr this]
      exact List.any_eq_true.mpr ⟨edge, List.getElem?_mem position, takenHere⟩

theorem resolveParallelEdges_getElem? {specialNodeId : Nat} {edges : List NodeBasedEdge} {j : Nat}
    {edge : NodeBasedEdge} (found : edges[j]? = some edge) :
    (resolveParallelEdges specialNodeId edges)[j]? =
      some (if edge.source = specialNodeId ∨ edge.target = specialNodeId then edge
        else resolveEdge specialNodeId
          (isFirstMinimum (takesIn (·.forward) (pairOf edge)) edges j)
          (isFirstMinimum (takesIn (·.backward) (pairOf edge)) edges j)
          (edges.any (takesIn (·.forward) (pairOf edge)))
          (edges.any (takesIn (·.backward) (pairOf edge))) edge) := by
  rw [resolveParallelEdges, List.getElem?_mapIdx, found]
  rfl

/-- The order on `(source, target)` of a vector sorted by
`CmpEdgeByInternalSourceTargetAndName`. -/
def SourceTargetLE (first second : NodeBasedEdge) : Prop :=
  first.source < second.source ∨ first.source = second.source ∧ first.target ≤ second.target

/-- `stxxl::sort` leaves no edge before one it compares less than: the pairs are sorted. -/
theorem sourceTargetLE_of_cmp {specialNodeId emptyNameId : Nat} {nameLess : Nat → Nat → Bool}
    {first second : NodeBasedEdge}
    (ordered : cmpEdgeByInternalSourceTargetAndName specialNodeId emptyNameId nameLess second
      first = false) :
    SourceTargetLE first second := by
  unfold cmpEdgeByInternalSourceTargetAndName at ordered
  unfold SourceTargetLE
  split at ordered
  · have := of_decide_eq_false ordered
    omega
  · split at ordered
    · have := of_decide_eq_false ordered
      omega
    · omega

section Sorted

variable {specialNodeId : Nat} {edges : List NodeBasedEdge}
  (sorted : edges.Pairwise SourceTargetLE)
include sorted

theorem sourceTargetLE_at {a b : Nat} (before : a < b) {first second : NodeBasedEdge}
    (foundFirst : edges[a]? = some first) (foundSecond : edges[b]? = some second) :
    SourceTargetLE first second := by
  have inFirst := lt_of_getElem? foundFirst
  have inSecond := lt_of_getElem? foundSecond
  rw [List.getElem?_eq_getElem inFirst, Option.some.injEq] at foundFirst
  rw [List.getElem?_eq_getElem inSecond, Option.some.injEq] at foundSecond
  exact foundFirst ▸ foundSecond ▸ List.pairwise_iff_getElem.mp sorted a b inFirst inSecond before

/-- In a sorted vector the edges of one pair are contiguous. -/
theorem pairOf_between {a b c : Nat} (ab : a < b) (bc : b < c) {first middle final : NodeBasedEdge}
    (foundFirst : edges[a]? = some first) (foundMiddle : edges[b]? = some middle)
    (foundFinal : edges[c]? = some final) (same : pairOf first = pairOf final) :
    pairOf middle = pairOf first := by
  have low := sourceTargetLE_at sorted ab foundFirst foundMiddle
  have high := sourceTargetLE_at sorted bc foundMiddle foundFinal
  simp only [pairOf, Prod.mk.injEq] at same ⊢
  unfold SourceTargetLE at low high
  omega

variable (last : NodeBasedEdge) (ends : edges.getLast? = some last)
  (lastSpecial : last.source = specialNodeId)
  (light : ∀ edge ∈ edges, edge.weight < intMax)
  (directed : ∀ edge ∈ edges, edge.source ≠ specialNodeId → edge.target ≠ specialNodeId →
    edge.forward = true ∨ edge.backward = true)
  (short : edges.length ≤ unsignedMax)
include ends lastSpecial

/-- Once the walk meets a `SPECIAL_NODEID` source, every later edge has that source too. -/
theorem source_special_after {i j : Nat} (later : i ≤ j) {first edge : NodeBasedEdge}
    (foundFirst : edges[i]? = some first) (stops : first.source = specialNodeId)
    (found : edges[j]? = some edge) : edge.source = specialNodeId := by
  have inside := lt_of_getElem? found
  rw [List.getLast?_eq_getElem?] at ends
  have low : specialNodeId ≤ edge.source := by
    rcases Nat.eq_or_lt_of_le later with rfl | later
    · rw [foundFirst, Option.some.injEq] at found
      subst found
      omega
    · have := sourceTargetLE_at sorted later foundFirst found
      unfold SourceTargetLE at this
      omega
  have high : edge.source ≤ specialNodeId := by
    rcases Nat.eq_or_lt_of_le (Nat.le_sub_one_of_lt inside) with atLast | before
    · rw [← atLast, found, Option.some.injEq] at ends
      subst ends
      omega
    · have := sourceTargetLE_at sorted before found ends
      unfold SourceTargetLE at this
      omega
  omega

include light directed short

/-- From any boundary between pairs, with the prefix resolved and the rest untouched, the loop
ends with `resolveParallelEdges`. -/
theorem removeDuplicates_resolved (fuel : Nat) :
    ∀ (current : List NodeBasedEdge) (i : Nat), current.length = edges.length →
      i ≤ edges.length → (∀ j, i ≤ j → current[j]? = edges[j]?) →
      (∀ j, j < i → current[j]? = (resolveParallelEdges specialNodeId edges)[j]?) →
      (∀ previous next, 0 < i → edges[i - 1]? = some previous → edges[i]? = some next →
        next.target ≠ specialNodeId → pairOf previous ≠ pairOf next) →
      edges.length - i < fuel →
      removeDuplicates specialNodeId fuel current i =
        .ok (resolveParallelEdges specialNodeId edges) := by
  induction fuel with
  | zero => intro _ _ _ _ _ _ _ enough; omega
  | succ fuel ih =>
    intro current i length within agrees resolved boundary enough
    have finish : (∀ j, i ≤ j → ∀ edge, edges[j]? = some edge →
        edge.source = specialNodeId ∨ edge.target = specialNodeId) →
        current = resolveParallelEdges specialNodeId edges := fun invalid =>
      List.ext_getElem? fun j => by
        rcases Nat.lt_or_ge j i with before | after
        · exact resolved j before
        rw [agrees j after]
        cases found : edges[j]? with
        | none => simp [resolveParallelEdges, found]
        | some edge => rw [resolveParallelEdges_getElem? found, if_pos (invalid j after edge found)]
    rcases Nat.lt_or_ge i edges.length with inside | past
    swap
    · rw [removeDuplicates_done fuel (by omega), finish fun j later edge found => absurd
        (lt_of_getElem? found) (by omega)]
    have member : edges[i] ∈ edges := List.getElem_mem inside
    have foundEdge : edges[i]? = some edges[i] := List.getElem?_eq_getElem inside
    have found : current[i]? = some edges[i] := (agrees i (Nat.le_refl _)).trans foundEdge
    by_cases source : edges[i].source = specialNodeId
    · rw [removeDuplicates_break fuel found source, finish fun j later edge found' =>
        .inl (source_special_after sorted last ends lastSpecial later foundEdge source found')]
    by_cases target : edges[i].target = specialNodeId
    · rw [removeDuplicates_skip fuel found source target]
      refine ih current (i + 1) length inside (fun j later => agrees j (by omega))
        (fun j before => ?_) (fun previous next _ foundPrevious _ valid same => ?_) (by omega)
      · rcases Nat.lt_or_ge j i with before | atEdge
        · exact resolved j before
        rw [show j = i by omega, found, resolveParallelEdges_getElem? foundEdge,
          if_pos (.inr target)]
      · rw [Nat.add_sub_cancel, foundEdge, Option.some.injEq] at foundPrevious
        subst foundPrevious
        exact valid (target ▸ (congrArg Prod.snd same).symm)
    have dropped := drop_eq_of_agrees agrees
    obtain ⟨run, after, split, nonempty, pairs, ending⟩ := removeDuplicates_group fuel found
      source target (fun other member => light other (List.mem_of_mem_drop (dropped ▸ member)))
      (directed _ member source target) (length ▸ short)
    rw [dropped] at split
    rcases ending with ⟨rfl, -⟩ | ⟨other, tail, rfl, differs, continues⟩
    · have lastInRest : last ∈ edges.drop i := by
        rw [List.getLast?_eq_getElem?] at ends
        refine List.mem_iff_getElem?.mpr ⟨edges.length - 1 - i, ?_⟩
        rw [List.getElem?_drop, show i + (edges.length - 1 - i) = edges.length - 1 by omega]
        exact ends
      rw [split, List.append_nil] at lastInRest
      have sameSource := congrArg Prod.fst (pairs last lastInRest)
      exact absurd (sameSource.symm.trans lastSpecial) source
    have window : ∀ k < run.length, edges[i + k]? = run[k]? := fun k below => by
      rw [← List.getElem?_drop, split, List.getElem?_append_left below]
    have nextFound : edges[i + run.length]? = some other := by
      rw [← List.getElem?_drop, split, List.getElem?_append_right (Nat.le_refl _), Nat.sub_self,
        List.getElem?_cons_zero]
    have beforeEnd := lt_of_getElem? nextFound
    have runLength := List.length_pos.mpr nonempty
    have group : ∀ (j : Nat) edge, edges[j]? = some edge → pairOf edge = pairOf edges[i] →
        i ≤ j ∧ j < i + run.length := by
      intro j edge found' same
      constructor
      · refine Nat.not_lt.mp fun early => ?_
        have previous : edges[i - 1]? = some edges[i - 1] := List.getElem?_eq_getElem (by omega)
        rcases Nat.eq_or_lt_of_le (show j ≤ i - 1 by omega) with atPrevious | before
        · exact boundary edge _ (by omega) (atPrevious ▸ found') foundEdge target same
        · exact boundary _ _ (by omega) previous foundEdge target
            ((pairOf_between sorted before (by omega) found' previous foundEdge same).trans same)
      · refine Nat.not_le.mp fun late => ?_
        rcases Nat.eq_or_lt_of_le late with atNext | after
        · rw [← atNext, nextFound, Option.some.injEq] at found'
          subst found'
          exact differs same
        · exact differs (pairOf_between sorted (show i < i + run.length by omega) after foundEdge
            nextFound found' same.symm)
    have lightRun : ∀ edge ∈ run, edge.weight < intMax := fun edge member =>
      light edge (List.mem_of_mem_drop (split ▸ List.mem_append_left _ member))
    have forwardMinimum := groupMinimum (·.forward) _ edges run i window pairs group lightRun
      (by omega)
    have backwardMinimum := groupMinimum (·.backward) _ edges run i window pairs group lightRun
      (by omega)
    rw [continues]
    refine ih _ _ (by rw [List.length_mapIdx, length]) (by omega)
      (fun j later => by rw [getElem?_mapIdx_outside _ (by omega), agrees j (by omega)])
      (fun j before => ?_) (fun previous next _ foundPrevious foundNext _ => ?_) (by omega)
    · rcases Nat.lt_or_ge j i with early | later
      · rw [getElem?_mapIdx_outside _ (by omega), resolved j early]
      have inRun : run[j - i]? = some run[j - i] := List.getElem?_eq_getElem (by omega)
      have foundJ : edges[j]? = some run[j - i] := by
        rw [← inRun, ← window _ (by omega), Nat.add_sub_cancel' later]
      have pairJ := pairs _ (List.getElem?_mem inRun)
      have sourceJ : run[j - i].source ≠ specialNodeId := fun stops =>
        source ((congrArg Prod.fst pairJ).symm.trans stops)
      have targetJ : run[j - i].target ≠ specialNodeId := fun stops =>
        target ((congrArg Prod.snd pairJ).symm.trans stops)
      rw [List.getElem?_mapIdx, agrees j (by omega), foundJ, Option.map_some',
        if_pos ⟨later, before⟩, resolveParallelEdges_getElem? foundJ,
        if_neg (not_or.mpr ⟨sourceJ, targetJ⟩), pairJ, forwardMinimum.1 j later before,
        backwardMinimum.1 j later before, forwardMinimum.2, backwardMinimum.2]
    · rw [nextFound, Option.some.injEq] at foundNext
      subst foundNext
      rw [show i + run.length - 1 = i + (run.length - 1) by omega, window _ (by omega)]
        at foundPrevious
      rw [pairs previous (List.getElem?_mem foundPrevious)]
      exact fun same => differs same.symm

end Sorted

/-- On a vector sorted by `CmpEdgeByInternalSourceTargetAndName` that ends in an edge with a
`SPECIAL_NODEID` source, whose weights are below `INT_MAX` and whose valid edges have a direction,
the duplicate removal stays inside the vector and leaves `resolveParallelEdges`: for each pair, the
first least-weight forward edge and the first least-weight backward edge survive (one
bidirectional edge when they coincide, otherwise a forward one and a reversed one, split when
both exist), and every other edge of the pair is invalidated. -/
theorem removeDuplicateEdges_resolved (specialNodeId emptyNameId : Nat)
    (nameLess : Nat → Nat → Bool) (edges : List NodeBasedEdge)
    (sorted : edges.Pairwise fun first second =>
      cmpEdgeByInternalSourceTargetAndName specialNodeId emptyNameId nameLess second first = false)
    (last : NodeBasedEdge) (ends : edges.getLast? = some last)
    (lastSpecial : last.source = specialNodeId)
    (light : ∀ edge ∈ edges, edge.weight < intMax)
    (directed : ∀ edge ∈ edges, edge.source ≠ specialNodeId → edge.target ≠ specialNodeId →
      edge.forward = true ∨ edge.backward = true)
    (short : edges.length ≤ unsignedMax) :
    removeDuplicateEdges specialNodeId edges = .ok (resolveParallelEdges specialNodeId edges) :=
  removeDuplicates_resolved (sorted.imp sourceTargetLE_of_cmp) last ends lastSpecial light directed
    short _ edges 0 rfl (Nat.zero_le _) (fun _ _ => rfl)
    (fun _ before => absurd before (Nat.not_lt_zero _))
    (fun _ _ positive => absurd positive (Nat.lt_irrefl 0)) (Nat.lt_succ_of_le (Nat.sub_le _ _))

example : resolveParallelEdges 9
    [⟨0, 1, 0, 5, true, false, false⟩, ⟨0, 1, 0, 3, false, true, false⟩,
      ⟨0, 1, 0, 3, true, true, false⟩, ⟨9, 9, 0, 1, true, false, false⟩] =
    [⟨9, 9, 0, 5, true, false, false⟩, ⟨1, 0, 0, 3, true, false, true⟩,
      ⟨0, 1, 0, 3, true, false, true⟩, ⟨9, 9, 0, 1, true, false, false⟩] := by decide

theorem removeDuplicateEdges_resolved_split :
    ([⟨0, 1, 0, 5, true, false, false⟩, ⟨0, 1, 0, 3, false, true, false⟩,
        ⟨0, 1, 0, 3, true, true, false⟩, ⟨9, 9, 0, 1, true, false, false⟩] :
        List NodeBasedEdge).Pairwise (fun first second =>
          cmpEdgeByInternalSourceTargetAndName 9 0 (fun _ _ => false) second first = false) ∧
      ([⟨0, 1, 0, 5, true, false, false⟩, ⟨0, 1, 0, 3, false, true, false⟩,
        ⟨0, 1, 0, 3, true, true, false⟩, ⟨9, 9, 0, 1, true, false, false⟩] :
        List NodeBasedEdge).getLast? = some ⟨9, 9, 0, 1, true, false, false⟩ ∧
      (⟨9, 9, 0, 1, true, false, false⟩ : NodeBasedEdge).source = 9 ∧
      (∀ edge ∈ ([⟨0, 1, 0, 5, true, false, false⟩, ⟨0, 1, 0, 3, false, true, false⟩,
        ⟨0, 1, 0, 3, true, true, false⟩, ⟨9, 9, 0, 1, true, false, false⟩] :
        List NodeBasedEdge), edge.weight < intMax) ∧
      (∀ edge ∈ ([⟨0, 1, 0, 5, true, false, false⟩, ⟨0, 1, 0, 3, false, true, false⟩,
        ⟨0, 1, 0, 3, true, true, false⟩, ⟨9, 9, 0, 1, true, false, false⟩] :
        List NodeBasedEdge), edge.source ≠ 9 → edge.target ≠ 9 →
          edge.forward = true ∨ edge.backward = true) ∧
      ([⟨0, 1, 0, 5, true, false, false⟩, ⟨0, 1, 0, 3, false, true, false⟩,
        ⟨0, 1, 0, 3, true, true, false⟩, ⟨9, 9, 0, 1, true, false, false⟩] :
        List NodeBasedEdge).length ≤ unsignedMax ∧
      removeDuplicateEdges 9
          [⟨0, 1, 0, 5, true, false, false⟩, ⟨0, 1, 0, 3, false, true, false⟩,
            ⟨0, 1, 0, 3, true, true, false⟩, ⟨9, 9, 0, 1, true, false, false⟩] =
        .ok (resolveParallelEdges 9
          [⟨0, 1, 0, 5, true, false, false⟩, ⟨0, 1, 0, 3, false, true, false⟩,
            ⟨0, 1, 0, 3, true, true, false⟩, ⟨9, 9, 0, 1, true, false, false⟩]) :=
  ⟨by decide, rfl, rfl, by decide, by decide, by decide,
    removeDuplicateEdges_resolved 9 0 (fun _ _ => false) _ (by decide) _ rfl rfl (by decide)
      (by decide) (by decide)⟩

end Osrm.Extractor
