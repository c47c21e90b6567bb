import Mathlib.Algebra.Order.BigOperators.Group.List
import Mathlib.Algebra.Order.Ring.Nat
import Mathlib.Data.List.GetD
import Mathlib.Data.List.Sort

/-!
# Turn-lane description arrays

`transformTurnLaneMapIntoArrays` (`extractor.cpp:62-88`) stores the lane descriptions of the
`LaneDescriptionMap` as an adjacency array: `std::uint32_t` offsets, one slot per id plus the empty
id and a sentinel, and the masks of all descriptions in one vector. `GetTurnDescription`
(`shared_datafacade.hpp:839-849`) reads a description back as the slice between two offsets.

Writes and reads through `operator[]` or `std::copy` outside a vector are undefined; the model
returns `none` there, so a result `some` also says that every access was in range.

`transformTurnLaneMapIntoArrays_spec` computes both arrays for a map whose ids are distinct and at
most its size and whose descriptions fit the `u32` offsets: the offsets are the running totals
`offsetOf`, and each description sits in its own slice. `GetTurnDescription` returns that slice for
every id except `INVALID_LANE_DESCRIPTIONID`, which it answers with the empty description before
looking at the arrays.
-/

namespace Osrm.Extractor

/-- An entry of `LaneDescriptionMap`: a lane description (the masks of its lanes) and its
`LaneDescriptionID`. -/
structure LaneDescriptionEntry where
  description : List Nat
  id : Nat
  deriving DecidableEq, Repr

/-- `vector[index] = value`, defined only inside the vector. -/
def writeAt {α : Type} (values : List α) (index : Nat) (value : α) : Option (List α) :=
  if index < values.length then some (values.set index value) else none

/-- `std::copy(source.begin(), source.end(), values.begin() + start)`, defined only when the
whole range lies inside the vector. -/
def copyInto {α : Type} (values : List α) (start : Nat) (source : List α) : Option (List α) :=
  if start + source.length ≤ values.length then
    some (values.take start ++ source ++ values.drop (start + source.length))
  else none

/-- `std::partial_sum` over `std::uint32_t`, continuing from the running total `sum`. -/
def partialSum : Nat → List Nat → List Nat
  | _, [] => []
  | sum, value :: rest =>
    let next := (sum + value) % 2 ^ 32
    next :: partialSum next rest

/-- `transformTurnLaneMapIntoArrays(turn_lane_map)`, over the map's entries in iteration order. -/
def transformTurnLaneMapIntoArrays (turnLaneMap : List LaneDescriptionEntry) :
    Option (List Nat × List Nat) := do
  let turnLaneOffsets ← turnLaneMap.foldlM
    (fun offsets entry => writeAt offsets (entry.id + 1) (entry.description.length % 2 ^ 32))
    (List.replicate (turnLaneMap.length + 2) 0)
  let turnLaneOffsets := partialSum 0 turnLaneOffsets
  -- `turn_lane_offsets[entry->second]` is in range once the first loop wrote the slot after it
  let turnLaneMasks ← turnLaneMap.foldlM
    (fun masks entry => copyInto masks (turnLaneOffsets.getD entry.id 0) entry.description)
    (List.replicate (turnLaneOffsets.getLastD 0) 0)
  pure (turnLaneOffsets, turnLaneMasks)

/-! ### Vector accesses -/

theorem copyInto_getElem? {α : Type} {values : List α} {start : Nat} {source : List α}
    (inside : start + source.length ≤ values.length) :
    ∃ result, copyInto values start source = some result ∧ result.length = values.length ∧
      ∀ position, result[position]? =
        if start ≤ position ∧ position < start + source.length then source[position - start]?
        else values[position]? := by
  refine ⟨_, if_pos inside, by simp; omega, fun position => ?_⟩
  rw [List.append_assoc, List.getElem?_append]
  have taken : (values.take start).length = start := by simp; omega
  by_cases before : position < start
  · rw [if_pos (by omega), if_neg (by omega), List.getElem?_take_of_lt before]
  · rw [if_neg (by omega), taken, List.getElem?_append]
    by_cases within : position - start < source.length
    · rw [if_pos within, if_pos ⟨by omega, by omega⟩]
    · rw [if_neg within, if_neg (by omega), List.getElem?_drop]
      congr 1
      omega

theorem partialSum_getElem? (sum : Nat) (values : List Nat) (position : Nat) :
    (partialSum sum values)[position]? =
      if position < values.length then some ((sum + (values.take (position + 1)).sum) % 2 ^ 32)
      else none := by
  induction values generalizing sum position with
  | nil => simp [partialSum]
  | cons value rest ih =>
    cases position with
    | zero => simp [partialSum]
    | succ position =>
      simp only [partialSum, List.getElem?_cons_succ, ih, List.length_cons, List.take_succ_cons,
        List.sum_cons, Nat.add_lt_add_iff_right]
      split_ifs
      · rw [Nat.mod_add_mod, Nat.add_assoc]
      · rfl

/-! ### The offsets as running totals -/

/-- The masks of all descriptions whose id is below `id`: where `id`'s slice starts. -/
def offsetOf (turnLaneMap : List LaneDescriptionEntry) (id : Nat) : Nat :=
  ((turnLaneMap.filter (·.id < id)).map (·.description.length)).sum

/-- The masks of the descriptions with id `slot - 1`: what the first loop writes at `slot`. -/
def countAt (turnLaneMap : List LaneDescriptionEntry) (slot : Nat) : Nat :=
  ((turnLaneMap.filter (·.id + 1 = slot)).map (·.description.length)).sum

/-- The masks of all descriptions. -/
def totalLength (turnLaneMap : List LaneDescriptionEntry) : Nat :=
  (turnLaneMap.map (·.description.length)).sum

theorem countAt_cons (entry : LaneDescriptionEntry) (rest : List LaneDescriptionEntry)
    (slot : Nat) :
    countAt (entry :: rest) slot =
      (if entry.id + 1 = slot then entry.description.length else 0) + countAt rest slot := by
  by_cases here : entry.id + 1 = slot <;> simp [countAt, List.filter_cons, here]

theorem countAt_of_not_mem {turnLaneMap : List LaneDescriptionEntry} {slot : Nat}
    (absent : slot ∉ turnLaneMap.map (·.id + 1)) : countAt turnLaneMap slot = 0 := by
  induction turnLaneMap with
  | nil => rfl
  | cons entry rest ih =>
    simp only [List.map_cons, List.mem_cons, not_or] at absent
    rw [countAt_cons, if_neg (Ne.symm absent.1), ih absent.2]

theorem offsetOf_succ (turnLaneMap : List LaneDescriptionEntry) (id : Nat) :
    offsetOf turnLaneMap (id + 1) = offsetOf turnLaneMap id + countAt turnLaneMap (id + 1) := by
  induction turnLaneMap with
  | nil => rfl
  | cons entry rest ih =>
    rw [countAt_cons]
    simp only [offsetOf, List.filter_cons] at ih ⊢
    by_cases below : entry.id < id
    · simp [below, Nat.lt_succ_of_lt below, Nat.ne_of_lt below, ih]; omega
    · by_cases same : entry.id = id
      · simp [same, ih]; omega
      · simp [below, same, show ¬ entry.id < id + 1 by omega, ih]

/-- The running total of the slots up to `id` is where `id`'s slice starts. -/
theorem sum_countAt_range (turnLaneMap : List LaneDescriptionEntry) (id : Nat) :
    ((List.range (id + 1)).map (countAt turnLaneMap)).sum = offsetOf turnLaneMap id := by
  induction id with
  | zero =>
    have absent : 0 ∉ turnLaneMap.map (·.id + 1) := by simp
    simp [offsetOf, List.range_succ, countAt_of_not_mem absent]
  | succ id ih => rw [List.range_succ, List.map_append, List.sum_append, ih, offsetOf_succ]; simp

theorem offsetOf_mono (turnLaneMap : List LaneDescriptionEntry) {low high : Nat}
    (le : low ≤ high) : offsetOf turnLaneMap low ≤ offsetOf turnLaneMap high := by
  induction high, le using Nat.le_induction with
  | base => exact le_refl _
  | succ high _ ih => rw [offsetOf_succ]; omega

theorem offsetOf_le_totalLength (turnLaneMap : List LaneDescriptionEntry) (id : Nat) :
    offsetOf turnLaneMap id ≤ totalLength turnLaneMap := by
  induction turnLaneMap with
  | nil => exact le_refl _
  | cons entry rest ih =>
    simp only [offsetOf, totalLength, List.filter_cons, List.map_cons, List.sum_cons] at ih ⊢
    split_ifs
    · simp only [List.map_cons, List.sum_cons]; omega
    · omega

theorem offsetOf_of_lt {turnLaneMap : List LaneDescriptionEntry} {id : Nat}
    (below : ∀ entry ∈ turnLaneMap, entry.id < id) :
    offsetOf turnLaneMap id = totalLength turnLaneMap := by
  rw [offsetOf, List.filter_eq_self.mpr (by simpa using below), totalLength]

section Map

variable {turnLaneMap : List LaneDescriptionEntry}

/-- The slot of an entry holds exactly its own description's length. -/
theorem countAt_entry (ids_nodup : (turnLaneMap.map (·.id)).Nodup) {entry : LaneDescriptionEntry}
    (member : entry ∈ turnLaneMap) :
    countAt turnLaneMap (entry.id + 1) = entry.description.length := by
  induction turnLaneMap with
  | nil => cases member
  | cons head rest ih =>
    obtain ⟨fresh, rest_nodup⟩ := List.nodup_cons.mp ids_nodup
    rcases List.mem_cons.mp member with rfl | later
    · have absent : entry.id + 1 ∉ rest.map (·.id + 1) := fun present => by
        obtain ⟨other, other_member, same⟩ := List.mem_map.mp present
        exact fresh (List.mem_map.mpr ⟨other, other_member, by simpa using same⟩)
      rw [countAt_cons, if_pos rfl, countAt_of_not_mem absent, Nat.add_zero]
    · have other : head.id ≠ entry.id := fun same =>
        fresh (List.mem_map.mpr ⟨entry, later, same.symm⟩)
      rw [countAt_cons, if_neg (by omega), Nat.zero_add]
      exact ih rest_nodup later

/-- The slice of an entry ends where the next id's begins. -/
theorem offsetOf_entry_succ (ids_nodup : (turnLaneMap.map (·.id)).Nodup)
    {entry : LaneDescriptionEntry} (member : entry ∈ turnLaneMap) :
    offsetOf turnLaneMap (entry.id + 1) =
      offsetOf turnLaneMap entry.id + entry.description.length := by
  rw [offsetOf_succ, countAt_entry ids_nodup member]

/-- The slices of two entries do not overlap. -/
theorem slices_disjoint (ids_nodup : (turnLaneMap.map (·.id)).Nodup)
    {first second : LaneDescriptionEntry} (first_member : first ∈ turnLaneMap)
    (second_member : second ∈ turnLaneMap) (different : first.id ≠ second.id) :
    offsetOf turnLaneMap first.id + first.description.length ≤ offsetOf turnLaneMap second.id ∨
      offsetOf turnLaneMap second.id + second.description.length ≤
        offsetOf turnLaneMap first.id := by
  rcases Nat.lt_or_gt_of_ne different with before | after
  · left
    rw [← offsetOf_entry_succ ids_nodup first_member]
    exact offsetOf_mono _ before
  · right
    rw [← offsetOf_entry_succ ids_nodup second_member]
    exact offsetOf_mono _ after

theorem getD_set_of_lt {values : List Nat} {index : Nat} (value : Nat)
    (inside : index < values.length) (slot : Nat) :
    (values.set index value).getD slot 0 = if index = slot then value else values.getD slot 0 := by
  simp only [List.getD_eq_getElem?_getD, List.getElem?_set]
  split_ifs <;> simp_all [List.getElem?_eq_getElem]

/-- The first loop of `transformTurnLaneMapIntoArrays` writes every entry's length into the slot
after its id. -/
theorem foldlM_writeAt (entries : List LaneDescriptionEntry)
    (ids_nodup : (entries.map (·.id)).Nodup)
    (short : ∀ entry ∈ entries, entry.description.length < 2 ^ 32) (offsets : List Nat)
    (inside : ∀ entry ∈ entries, entry.id + 1 < offsets.length) :
    ∃ counts, entries.foldlM
        (fun offsets entry => writeAt offsets (entry.id + 1) (entry.description.length % 2 ^ 32))
        offsets = some counts ∧ counts.length = offsets.length ∧
      ∀ slot, counts.getD slot 0 =
        if slot ∈ entries.map (·.id + 1) then countAt entries slot else offsets.getD slot 0 := by
  induction entries generalizing offsets with
  | nil => exact ⟨offsets, rfl, rfl, fun slot => by simp⟩
  | cons entry rest ih =>
    obtain ⟨fresh, rest_nodup⟩ := List.nodup_cons.mp ids_nodup
    have own_inside := inside entry (List.mem_cons_self _ _)
    obtain ⟨counts, folded, counts_length, values⟩ := ih rest_nodup
      (fun other member => short other (List.mem_cons_of_mem _ member))
      (offsets.set (entry.id + 1) (entry.description.length % 2 ^ 32))
      (fun other member => by simpa using inside other (List.mem_cons_of_mem _ member))
    refine ⟨counts, ?_, by simpa using counts_length, fun slot => ?_⟩
    · rw [List.foldlM_cons, writeAt, if_pos own_inside]
      exact folded
    rw [values, getD_set_of_lt _ own_inside, countAt_cons,
      Nat.mod_eq_of_lt (short entry (List.mem_cons_self _ _))]
    by_cases later : slot ∈ rest.map (·.id + 1)
    · have other : entry.id + 1 ≠ slot := by
        rintro rfl
        obtain ⟨twin, twin_member, same⟩ := List.mem_map.mp later
        exact fresh (List.mem_map.mpr ⟨twin, twin_member, by simpa using same⟩)
      simp [later, other]
    · rw [if_neg later, countAt_of_not_mem later]
      by_cases here : entry.id + 1 = slot
      · simp [here, later]
      · simp [here, Ne.symm here, later]

/-- The second loop copies every description into its slice and leaves everything outside the
slices alone. -/
theorem foldlM_copyInto (ids_nodup : (turnLaneMap.map (·.id)).Nodup)
    (entries : List LaneDescriptionEntry) (sub : ∀ entry ∈ entries, entry ∈ turnLaneMap)
    (entries_nodup : (entries.map (·.id)).Nodup) (offsets : List Nat)
    (offsets_eq : ∀ entry ∈ entries, offsets.getD entry.id 0 = offsetOf turnLaneMap entry.id)
    (masks : List Nat) (masks_length : masks.length = totalLength turnLaneMap) :
    ∃ result, entries.foldlM
        (fun masks entry => copyInto masks (offsets.getD entry.id 0) entry.description)
        masks = some result ∧ result.length = totalLength turnLaneMap ∧
      (∀ entry ∈ entries, ∀ index < entry.description.length,
        result[offsetOf turnLaneMap entry.id + index]? = entry.description[index]?) ∧
      ∀ position, (∀ entry ∈ entries, position < offsetOf turnLaneMap entry.id ∨
          offsetOf turnLaneMap entry.id + entry.description.length ≤ position) →
        result[position]? = masks[position]? := by
  induction entries generalizing masks with
  | nil => exact ⟨masks, rfl, masks_length, (fun _ member => nomatch member), fun _ _ => rfl⟩
  | cons entry rest ih =>
    obtain ⟨fresh, rest_nodup⟩ := List.nodup_cons.mp entries_nodup
    have member := sub entry (List.mem_cons_self _ _)
    have fits : offsetOf turnLaneMap entry.id + entry.description.length ≤ masks.length := by
      rw [masks_length, ← offsetOf_entry_succ ids_nodup member]
      exact offsetOf_le_totalLength _ _
    obtain ⟨copied, copy_eq, copied_length, copied_values⟩ := copyInto_getElem? fits
    obtain ⟨result, folded, result_length, result_slices, result_frame⟩ :=
      ih (fun other member => sub other (List.mem_cons_of_mem _ member)) rest_nodup
        (fun other member => offsets_eq other (List.mem_cons_of_mem _ member)) copied
        (copied_length.trans masks_length)
    have own_offset := offsets_eq entry (List.mem_cons_self _ _)
    refine ⟨result, ?_, result_length, ?_, ?_⟩
    · rw [List.foldlM_cons, own_offset, copy_eq]
      exact folded
    · intro other other_member index index_lt
      rcases List.mem_cons.mp other_member with rfl | later
      · have outside : ∀ twin ∈ rest,
            offsetOf turnLaneMap other.id + index < offsetOf turnLaneMap twin.id ∨
              offsetOf turnLaneMap twin.id + twin.description.length ≤
                offsetOf turnLaneMap other.id + index := by
          intro twin twin_member
          have different : other.id ≠ twin.id := fun same =>
            fresh (List.mem_map.mpr ⟨twin, twin_member, same.symm⟩)
          rcases slices_disjoint ids_nodup member (sub twin (List.mem_cons_of_mem _ twin_member))
            different with before | after
          · left; omega
          · right; omega
        rw [result_frame _ outside, copied_values, if_pos ⟨by omega, by omega⟩,
          Nat.add_sub_cancel_left]
      · exact result_slices other later index index_lt
    · intro position outside
      rw [result_frame position fun other member => outside other (List.mem_cons_of_mem _ member),
        copied_values]
      rcases outside entry (List.mem_cons_self _ _) with before | after
      · rw [if_neg (by omega)]
      · rw [if_neg (by omega)]

/-- Both arrays of a map whose ids are distinct and at most its size and whose descriptions fit
the `u32` offsets: the offsets are the running totals, and each description fills its slice. -/
theorem transformTurnLaneMapIntoArrays_spec (ids_nodup : (turnLaneMap.map (·.id)).Nodup)
    (ids_le : ∀ entry ∈ turnLaneMap, entry.id ≤ turnLaneMap.length)
    (total_lt : totalLength turnLaneMap < 2 ^ 32) :
    ∃ masks, transformTurnLaneMapIntoArrays turnLaneMap =
        some ((List.range (turnLaneMap.length + 2)).map (offsetOf turnLaneMap), masks) ∧
      masks.length = totalLength turnLaneMap ∧
      ∀ entry ∈ turnLaneMap, ∀ index < entry.description.length,
        masks[offsetOf turnLaneMap entry.id + index]? = entry.description[index]? := by
  have short : ∀ entry ∈ turnLaneMap, entry.description.length < 2 ^ 32 := fun entry member =>
    lt_of_le_of_lt (List.le_sum_of_mem (List.mem_map_of_mem (·.description.length) member) :
      entry.description.length ≤ totalLength turnLaneMap) total_lt
  obtain ⟨counts, written, counts_length, counts_values⟩ := foldlM_writeAt turnLaneMap ids_nodup
    short (List.replicate (turnLaneMap.length + 2) 0)
    (fun entry member => by simpa using Nat.lt_succ_of_le (ids_le entry member))
  have counts_eq : counts = (List.range (turnLaneMap.length + 2)).map (countAt turnLaneMap) := by
    refine List.ext_getElem (by simpa using counts_length) fun slot inside _ => ?_
    have value := counts_values slot
    rw [List.getD_eq_getElem?_getD, List.getElem?_eq_getElem inside, Option.getD_some] at value
    rw [value, List.getElem_map, List.getElem_range]
    split_ifs with present
    · rfl
    · rw [countAt_of_not_mem present, List.getD_eq_getElem?_getD,
        List.getElem?_getD_replicate_default_eq]
  have offsets_eq : partialSum 0 counts =
      (List.range (turnLaneMap.length + 2)).map (offsetOf turnLaneMap) := by
    refine List.ext_getElem? fun slot => ?_
    rw [partialSum_getElem?, counts_eq, List.getElem?_map]
    simp only [List.length_map, List.length_range]
    split_ifs with inside
    · rw [List.getElem?_range inside, ← List.map_take, List.take_range, Nat.min_eq_left (by omega),
        sum_countAt_range, Nat.zero_add,
        Nat.mod_eq_of_lt (lt_of_le_of_lt (offsetOf_le_totalLength _ _) total_lt)]
      rfl
    · rw [List.getElem?_eq_none (by simp; omega)]
      rfl
  have last : ((List.range (turnLaneMap.length + 2)).map (offsetOf turnLaneMap)).getLastD 0 =
      totalLength turnLaneMap := by
    rw [List.getLastD_eq_getLast?, List.getLast?_eq_getElem?]
    simp only [List.length_map, List.length_range, List.getElem?_map, List.getElem?_range
      (by omega : turnLaneMap.length + 2 - 1 < turnLaneMap.length + 2), Option.map_some',
      Option.getD_some]
    exact offsetOf_of_lt fun entry member => by have := ids_le entry member; omega
  obtain ⟨masks, copied, masks_length, slices, -⟩ := foldlM_copyInto ids_nodup turnLaneMap
    (fun _ => id) ids_nodup ((List.range (turnLaneMap.length + 2)).map (offsetOf turnLaneMap))
    (fun entry member => by
      rw [List.getD_eq_getElem?_getD, List.getElem?_map, List.getElem?_range
        (show entry.id < turnLaneMap.length + 2 by have := ids_le entry member; omega)]
      rfl)
    (List.replicate (totalLength turnLaneMap) 0) (by simp)
  refine ⟨masks, ?_, masks_length, slices⟩
  simp only [transformTurnLaneMapIntoArrays, written, Option.bind_eq_bind, Option.some_bind,
    offsets_eq, last, copied, Option.pure_def]

end Map

end Osrm.Extractor

namespace Osrm.Engine

/-- `SharedDataFacade::GetTurnDescription(lane_description_id)`, over the loaded
`m_lane_description_offsets` and `m_lane_description_masks`. `INVALID_LANE_DESCRIPTIONID` is
declared outside the repository's sources and is a parameter. -/
def getTurnDescription (invalidLaneDescriptionId : Nat) (laneDescriptionOffsets
    laneDescriptionMasks : List Nat) (laneDescriptionId : Nat) : Option (List Nat) :=
  if laneDescriptionId = invalidLaneDescriptionId then some []
  else do
    let first ← laneDescriptionOffsets[laneDescriptionId]?
    let last ← laneDescriptionOffsets[laneDescriptionId + 1]?
    if first ≤ last ∧ last ≤ laneDescriptionMasks.length then
      some ((laneDescriptionMasks.drop first).take (last - first))
    else none

end Osrm.Engine

namespace Osrm.Extractor

theorem slice_of_getElem? {masks : List Nat} {start : Nat} {description : List Nat}
    (filled : ∀ index < description.length, masks[start + index]? = description[index]?) :
    (masks.drop start).take description.length = description := by
  apply List.ext_getElem?
  intro index
  rw [List.getElem?_take]
  split_ifs with inside
  · rw [List.getElem?_drop, filled index inside]
  · exact (List.getElem?_eq_none (by omega)).symm

theorem getElem?_offsets (turnLaneMap : List LaneDescriptionEntry) {slot : Nat}
    (inside : slot < turnLaneMap.length + 2) :
    ((List.range (turnLaneMap.length + 2)).map (offsetOf turnLaneMap))[slot]? =
      some (offsetOf turnLaneMap slot) := by
  rw [List.getElem?_map, List.getElem?_range inside]
  rfl

/-- The arrays of `transformTurnLaneMapIntoArrays` read back through `GetTurnDescription`: every
description sits in the slice its id names, and `GetTurnDescription` returns it for every id other
than `INVALID_LANE_DESCRIPTIONID`. -/
theorem transformTurnLaneMapIntoArrays_roundTrip (invalidLaneDescriptionId : Nat)
    (turnLaneMap : List LaneDescriptionEntry) (ids_nodup : (turnLaneMap.map (·.id)).Nodup)
    (ids_le : ∀ entry ∈ turnLaneMap, entry.id ≤ turnLaneMap.length)
    (total_lt : (turnLaneMap.map (·.description.length)).sum < 2 ^ 32) :
    ∃ offsets masks, transformTurnLaneMapIntoArrays turnLaneMap = some (offsets, masks) ∧
      offsets.Sorted (· ≤ ·) ∧ offsets.getLast? = some masks.length ∧
      ∀ entry ∈ turnLaneMap,
        (masks.drop (offsets.getD entry.id 0)).take
            (offsets.getD (entry.id + 1) 0 - offsets.getD entry.id 0) = entry.description ∧
          Engine.getTurnDescription invalidLaneDescriptionId offsets masks entry.id =
            if entry.id = invalidLaneDescriptionId then some [] else some entry.description := by
  obtain ⟨masks, arrays, masks_length, slices⟩ :=
    transformTurnLaneMapIntoArrays_spec ids_nodup ids_le total_lt
  refine ⟨_, masks, arrays, ?_, ?_, fun entry member => ?_⟩
  · exact List.pairwise_map.mpr
      ((List.pairwise_lt_range _).imp fun below => offsetOf_mono _ (le_of_lt below))
  · rw [List.getLast?_eq_getElem?, List.length_map, List.length_range,
      getElem?_offsets _ (by omega), masks_length]
    exact congrArg some (offsetOf_of_lt fun other other_member => by
      have := ids_le other other_member; omega)
  have id_le := ids_le entry member
  have first := getElem?_offsets turnLaneMap (show entry.id < turnLaneMap.length + 2 by omega)
  have last := getElem?_offsets turnLaneMap (show entry.id + 1 < turnLaneMap.length + 2 by omega)
  rw [offsetOf_entry_succ ids_nodup member] at last
  have slice := slice_of_getElem? (slices entry member)
  refine ⟨by simp only [List.getD_eq_getElem?_getD, first, last, Option.getD_some,
    Nat.add_sub_cancel_left, slice], ?_⟩
  split_ifs with invalid
  · simp [Engine.getTurnDescription, invalid]
  · have fits : offsetOf turnLaneMap entry.id + entry.description.length ≤ masks.length := by
      rw [masks_length, ← offsetOf_entry_succ ids_nodup member]
      exact offsetOf_le_totalLength _ _
    simp [Engine.getTurnDescription, invalid, first, last, fits, slice]

theorem transformTurnLaneMapIntoArrays_roundTrip_two :
    (([⟨[1, 2], 0⟩, ⟨[3], 1⟩] : List LaneDescriptionEntry).map (·.id)).Nodup ∧
      (∀ entry ∈ ([⟨[1, 2], 0⟩, ⟨[3], 1⟩] : List LaneDescriptionEntry), entry.id ≤ 2) ∧
      (([⟨[1, 2], 0⟩, ⟨[3], 1⟩] : List LaneDescriptionEntry).map (·.description.length)).sum <
        2 ^ 32 ∧
      ∃ offsets masks, transformTurnLaneMapIntoArrays [⟨[1, 2], 0⟩, ⟨[3], 1⟩] =
          some (offsets, masks) ∧
        offsets.Sorted (· ≤ ·) ∧ offsets.getLast? = some masks.length ∧
        ∀ entry ∈ ([⟨[1, 2], 0⟩, ⟨[3], 1⟩] : List LaneDescriptionEntry),
          (masks.drop (offsets.getD entry.id 0)).take
              (offsets.getD (entry.id + 1) 0 - offsets.getD entry.id 0) = entry.description ∧
            Engine.getTurnDescription 65535 offsets masks entry.id =
              if entry.id = 65535 then some [] else some entry.description :=
  ⟨by decide, by decide, by decide,
    transformTurnLaneMapIntoArrays_roundTrip 65535 _ (by decide) (by decide) (by decide)⟩

/-- The map giving each id below `size` the one-lane description `[id]`. -/
def identityMap (size : Nat) : List LaneDescriptionEntry :=
  (List.range size).map fun id => ⟨[id], id⟩

theorem identityMap_ids (size : Nat) : (identityMap size).map (·.id) = List.range size := by
  simp [identityMap, Function.comp_def]

theorem identityMap_totalLength (size : Nat) : totalLength (identityMap size) = size := by
  simp [identityMap, totalLength, Function.comp_def]

theorem identityMap_id_le (size : Nat) :
    ∀ entry ∈ identityMap size, entry.id ≤ (identityMap size).length := by
  intro entry member
  obtain ⟨id, inside, rfl⟩ := List.mem_map.mp member
  simpa [identityMap] using le_of_lt (List.mem_range.mp inside)

/-- Distinct ids up to the map's size reach `INVALID_LANE_DESCRIPTIONID`, `65535` for the 16-bit
ids, once the map has `65536` entries. `GetTurnDescription` answers that id with the empty
description, not with the slice holding `[65535]`. -/
theorem getTurnDescription_invalid_entry :
    ((identityMap 65536).map (·.id)).Nodup ∧
      (∀ entry ∈ identityMap 65536, entry.id ≤ (identityMap 65536).length) ∧
      (⟨[65535], 65535⟩ : LaneDescriptionEntry) ∈ identityMap 65536 ∧
      ∃ offsets masks, transformTurnLaneMapIntoArrays (identityMap 65536) = some (offsets, masks) ∧
        Engine.getTurnDescription 65535 offsets masks 65535 = some [] := by
  have ids_nodup := (identityMap_ids 65536).symm ▸ List.nodup_range 65536
  obtain ⟨masks, arrays, -⟩ := transformTurnLaneMapIntoArrays_spec ids_nodup
    (identityMap_id_le 65536) (by rw [identityMap_totalLength]; decide)
  exact ⟨ids_nodup, identityMap_id_le 65536,
    List.mem_map.mpr ⟨65535, List.mem_range.mpr (by decide), rfl⟩, _, masks, arrays, if_pos rfl⟩

end Osrm.Extractor
