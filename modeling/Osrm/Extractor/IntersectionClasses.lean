import Osrm.Extractor.NameTable

/-!
# The intersection classification data

`WriteIntersectionClassificationData` (`extractor.cpp:617-670`) writes the bearing class of every
node, a `util::RangeTable` built from the number of bearings of each bearing class, the total
number of bearings, the bearings of all classes one after the other, and the entry classes. The
facade reads a node's class with `GetBearingClassID` and the class's bearings with
`GetBearingClass` (`shared_datafacade.hpp:800-816`), which walks from `begin() + range.front()`
to `(begin() + range.back()) + 1` without the empty-range check that `GetNameForID` makes. For a
class without bearings the range is empty and `range.back()` is the `unsigned` `range.front() - 1`;
the iterator sums do not wrap, so the loop ends at the class's own begin, except for an empty range
at `0`: there `range.back()` is `2 ^ 32 - 1` and the loop runs past the table.

`util::guidance::BearingClass` is not in this tree: a class is the list of its available bearings,
and `BearingClass.add` appends one, as `GetBearingClass` uses it. Writing the file can fail at the
stream; the model leaves the stream's state out. The table's contract is `RangeTable.Represents`,
as for the name table: each class has fewer than 256 bearings.

`getBearingClass_roundTrip`: through any table that represents the written counts, every node's
class is read back with its bearings in order, the empty classes included, except an empty class
with no bearing before it, where the loop runs past the table.
-/

namespace Osrm.Extractor

/-- What `WriteIntersectionClassificationData` writes after the fingerprint. -/
structure IntersectionClassesFile (EntryClass : Type) where
  nodeBasedIntersectionClasses : List Nat
  bearingCounts : List Nat
  totalBearings : Nat
  bearingValues : List Nat
  entryClasses : List EntryClass

/-- `WriteIntersectionClassificationData` over the available bearings of each bearing class: the
counts are `unsigned`, the total a `std::uint64_t`. -/
def writeIntersectionClassificationData {EntryClass : Type} (nodeBasedIntersectionClasses : List Nat)
    (bearingClasses : List (List Nat)) (entryClasses : List EntryClass) :
    IntersectionClassesFile EntryClass :=
  let bearingCounts := bearingClasses.map fun bearingClass => bearingClass.length % 2 ^ 32
  let totalBearings :=
    bearingClasses.foldl (fun total bearingClass => (total + bearingClass.length) % 2 ^ 64) 0
  ⟨nodeBasedIntersectionClasses, bearingCounts, totalBearings, bearingClasses.flatten, entryClasses⟩

theorem foldl_totalBearings (bearingClasses : List (List Nat)) {start : Nat} (below : start < 2 ^ 64) :
    bearingClasses.foldl (fun total bearingClass => (total + bearingClass.length) % 2 ^ 64) start =
      (start + bearingClasses.flatten.length) % 2 ^ 64 := by
  induction bearingClasses generalizing start with
  | nil => exact (Nat.mod_eq_of_lt below).symm
  | cons bearingClass rest ih =>
    rw [List.foldl_cons, ih (Nat.mod_lt _ (by decide)), Nat.mod_add_mod, List.flatten_cons,
      List.length_append, Nat.add_assoc]

/-- With fewer than `2 ^ 32` bearings in all, the counts and the total are exact. -/
theorem writeIntersectionClassificationData_spec {EntryClass : Type}
    (nodeBasedIntersectionClasses : List Nat) (bearingClasses : List (List Nat))
    (entryClasses : List EntryClass) (fits : bearingClasses.flatten.length < 2 ^ 32) :
    writeIntersectionClassificationData nodeBasedIntersectionClasses bearingClasses entryClasses =
      ⟨nodeBasedIntersectionClasses, bearingClasses.map List.length, bearingClasses.flatten.length,
        bearingClasses.flatten, entryClasses⟩ := by
  have counts : bearingClasses.map (fun bearingClass => bearingClass.length % 2 ^ 32) =
      bearingClasses.map List.length :=
    List.map_congr_left fun bearingClass member => Nat.mod_eq_of_lt
      (lt_of_le_of_lt (List.sublist_flatten_of_mem member).length_le fits)
  simp only [writeIntersectionClassificationData, counts, foldl_totalBearings _ (by decide : 0 < 2 ^ 64),
    Nat.zero_add, Nat.mod_eq_of_lt (lt_trans fits (by decide : (2 : Nat) ^ 32 < 2 ^ 64))]

end Osrm.Extractor

namespace Osrm.Engine.Datafacade

/-- `BearingClass::add`: one more available bearing. -/
def BearingClass.add (bearingClass : List Nat) (bearing : Nat) : List Nat := bearingClass ++ [bearing]

/-- `SharedDataFacade::GetBearingClassID`: `m_bearing_class_id_table.at(id)`, `none` where `at`
throws. -/
def getBearingClassID (bearingClassIdTable : List Nat) (id : Nat) : Option Nat :=
  bearingClassIdTable[id]?

/-- `SharedDataFacade::GetBearingClass`: the loop from `begin() + range.front()` to
`(begin() + range.back()) + 1`, where `range.back()` is `unsigned` and the iterator sums are not;
`none` where the loop would run past `m_bearing_values_table` or never meet its end. -/
def getBearingClass (bearingValuesTable : List Nat) (bearingRangesTable : RangeTable)
    (bearingClassId : Nat) : Option (List Nat) :=
  let (front, stop) := bearingRangesTable.getRange bearingClassId
  let back := (stop + 2 ^ 32 - 1) % 2 ^ 32
  let last := back + 1
  if front ≤ last ∧ last ≤ bearingValuesTable.length then
    some (((bearingValuesTable.drop front).take (last - front)).foldl BearingClass.add [])
  else none

open Extractor

theorem foldl_add (bearingClass bearings : List Nat) :
    bearings.foldl BearingClass.add bearingClass = bearingClass ++ bearings := by
  induction bearings generalizing bearingClass with
  | nil => simp
  | cons bearing rest ih => simp [BearingClass.add, ih]

/-- One past `range.back()` is the end of a range that does not end at `0`. -/
theorem back_succ {stop : Nat} (positive : 0 < stop) (below : stop < 2 ^ 32) :
    (stop + 2 ^ 32 - 1) % 2 ^ 32 + 1 = stop := by
  have : (2 : Nat) ^ 32 = 4294967296 := rfl
  rw [this] at below ⊢
  omega

/-- A table that represents the counts of `bearingClasses`, read over their bearings, returns each
class at its id, the empty ones included, but for an empty class whose range lies at `0`. -/
theorem getBearingClass_of_represents {bearingClasses : List (List Nat)} {table : RangeTable}
    (loaded : table.Represents (bearingClasses.map List.length))
    (short : ∀ bearingClass ∈ bearingClasses, bearingClass.length < 256)
    (fits : bearingClasses.flatten.length < 2 ^ 32) {id : Nat} (inside : id < bearingClasses.length) :
    getBearingClass bearingClasses.flatten table id =
      if ((bearingClasses.map List.length).take (id + 1)).sum = 0 then none
      else some bearingClasses[id] := by
  have range := loaded (by simpa using short) id (by simpa using inside)
  have bound := sum_take_lengths_le bearingClasses (id + 1)
  have slice := slice_flatten bearingClasses inside
  rw [sum_take_succ_lengths _ inside] at range bound ⊢
  unfold getBearingClass
  rw [range]
  dsimp only
  generalize ((bearingClasses.map List.length).take id).sum = front at bound slice ⊢
  by_cases atZero : front + bearingClasses[id].length = 0
  · have : (2 : Nat) ^ 32 = 4294967296 := rfl
    rw [if_pos atZero, if_neg (by rw [atZero, this]; omega)]
  · rw [if_neg atZero, back_succ (Nat.pos_of_ne_zero atZero) (by omega),
      if_pos ⟨Nat.le_add_right _ _, bound⟩, Nat.add_sub_cancel_left, slice, foldl_add,
      List.nil_append]

/-- Every node's bearing class is read back from the file with its bearings in order, through any
table that represents the written counts, when the class id stored for the node is one of the
written classes, unless the class and every class before it are empty: then the loop runs past
the table. -/
theorem getBearingClass_roundTrip {EntryClass : Type} (nodeBasedIntersectionClasses : List Nat)
    (bearingClasses : List (List Nat)) (entryClasses : List EntryClass)
    (fits : bearingClasses.flatten.length < 2 ^ 32)
    (short : ∀ bearingClass ∈ bearingClasses, bearingClass.length < 256) :
    (writeIntersectionClassificationData nodeBasedIntersectionClasses bearingClasses
        entryClasses).totalBearings = bearingClasses.flatten.length ∧
      ∀ table : RangeTable, table.Represents (writeIntersectionClassificationData
          nodeBasedIntersectionClasses bearingClasses entryClasses).bearingCounts →
        ∀ node bearingClassId, getBearingClassID (writeIntersectionClassificationData
            nodeBasedIntersectionClasses bearingClasses entryClasses).nodeBasedIntersectionClasses
            node = some bearingClassId →
          ∀ inside : bearingClassId < bearingClasses.length,
            getBearingClass (writeIntersectionClassificationData nodeBasedIntersectionClasses
              bearingClasses entryClasses).bearingValues table bearingClassId =
              if ((bearingClasses.map List.length).take (bearingClassId + 1)).sum = 0 then none
              else some bearingClasses[bearingClassId] := by
  rw [writeIntersectionClassificationData_spec _ _ _ fits]
  exact ⟨rfl, fun _ loaded _ _ _ inside => getBearingClass_of_represents loaded short fits inside⟩

/-- Four bearing classes, the first and the third empty, shared by four nodes. -/
theorem getBearingClass_roundTrip_emptyClasses :
    [[], [0, 90, 180], [], [45]].flatten.length < 2 ^ 32 ∧
      (∀ bearingClass ∈ [[], [0, 90, 180], [], [45]], bearingClass.length < 256) ∧
      (writeIntersectionClassificationData [1, 0, 3, 2] [[], [0, 90, 180], [], [45]]
          ([] : List Unit)).totalBearings = [[], [0, 90, 180], [], [45]].flatten.length ∧
      ∀ table : RangeTable, table.Represents (writeIntersectionClassificationData [1, 0, 3, 2]
          [[], [0, 90, 180], [], [45]] ([] : List Unit)).bearingCounts →
        ∀ node bearingClassId, getBearingClassID (writeIntersectionClassificationData [1, 0, 3, 2]
            [[], [0, 90, 180], [], [45]] ([] : List Unit)).nodeBasedIntersectionClasses node =
              some bearingClassId →
          ∀ inside : bearingClassId < [[], [0, 90, 180], [], [45]].length,
            getBearingClass (writeIntersectionClassificationData [1, 0, 3, 2]
              [[], [0, 90, 180], [], [45]] ([] : List Unit)).bearingValues table bearingClassId =
              if ((([[], [0, 90, 180], [], [45]] : List (List Nat)).map List.length).take
                  (bearingClassId + 1)).sum = 0 then none
              else some [[], [0, 90, 180], [], [45]][bearingClassId] :=
  ⟨by decide, by decide,
    getBearingClass_roundTrip [1, 0, 3, 2] _ ([] : List Unit) (by decide) (by decide)⟩

example : getBearingClass [0, 90, 180, 45] (RangeTable.ofLengths [0, 3, 0, 1]) 0 = none ∧
    getBearingClass [0, 90, 180, 45] (RangeTable.ofLengths [0, 3, 0, 1]) 2 = some [] ∧
    getBearingClass [0, 90, 180, 45] (RangeTable.ofLengths [0, 3, 0, 1]) 3 = some [45] := by
  decide

end Osrm.Engine.Datafacade
